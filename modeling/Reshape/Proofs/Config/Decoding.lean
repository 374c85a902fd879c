import Mathlib.Data.List.Perm.Subperm
import Reshape.Config.Decoding
import Reshape.Proofs.FieldType.Text
import Reshape.Proofs.Json.Arrangement
import Reshape.Proofs.Maps
import Reshape.Proofs.Sequence

/-!
# Decoders undo writers

What a decoder gives for the draft of a written value does not depend on the order of the
members.  It is the value that was written, or the error of the one part that cannot be
read back.
-/

namespace Reshape.Config

open Json

/-! ## Reading back -/

/-- Decoding gives `value` for every arrangement of `json`, unless the check fails. -/
def ReadsBack {α : Type} (decode : Draft → Except DecodeError α) (json : Json)
    (check : Except DecodeError Unit) (value : α) : Prop :=
  ∀ written : Json, written.Reorders json →
    decode (.ofJson written) = check.map fun () => value

/-! ## Texts, types and policies -/

theorem readsBack_text (value : String) :
    ReadsBack decodeText (.string value) (.ok ()) value := by
  intro written h
  obtain rfl := h.eq_string
  rfl

private theorem readsBack_optionalText (value : Option String) :
    ReadsBack decodeOptionalText (optionalTextJson value) (.ok ()) value := by
  intro written h
  cases value with
  | none =>
      obtain rfl := h.eq_null
      rfl
  | some text =>
      obtain rfl := h.eq_string
      rfl

private theorem readsBack_policy (policy : Policy) :
    ReadsBack decodePolicy (.string policy.name) (.ok ()) policy := by
  intro written h
  obtain rfl := h.eq_string
  cases policy <;> rfl

/-- A type is read back unless its text is refused. -/
def checkType (type : FieldType) : Except DecodeError Unit :=
  match FieldType.parse type.text with
  | .ok _ => .ok ()
  | .error cause => .error (.badFieldType cause)

theorem checkType_eq_ok {type : FieldType} (h : type.nestsOption = false) :
    checkType type = .ok () := by
  rw [checkType, FieldType.parse_text_eq_ok h]

theorem checkType_eq_error {type : FieldType} (h : type.nestsOption = true) :
    ∃ shown, checkType type = .error (.badFieldType (.nestedOption shown)) := by
  obtain ⟨shown, hshown⟩ := FieldType.parse_text_eq_error h
  exact ⟨shown, by rw [checkType, hshown]⟩

private theorem readsBack_fieldType (type : FieldType) :
    ReadsBack decodeFieldType (.string type.text) (checkType type) type := by
  intro written h
  obtain rfl := h.eq_string
  have htext : decodeFieldType (.ofJson (.string type.text)) =
      match FieldType.parse type.text with
      | .ok type => .ok type
      | .error cause => .error (.badFieldType cause) := rfl
  cases hnests : type.nestsOption with
  | false =>
      rw [htext, FieldType.parse_text_eq_ok hnests, checkType_eq_ok hnests]
      rfl
  | true =>
      obtain ⟨shown, hshown⟩ := FieldType.parse_text_eq_error hnests
      rw [htext, checkType, hshown]
      rfl

/-! ## Maps of texts -/

def textMember (entry : String × String) : String × Json := (entry.1, .string entry.2)

theorem keys_textMember (entries : List (String × String)) :
    (entries.map textMember).map Prod.fst = entries.map Prod.fst := by
  rw [List.map_map]
  rfl

private theorem decodeTextMembers_textMember (entries : List (String × String)) :
    decodeTextMembers (Draft.ofMembers (entries.map textMember)) = .ok entries := by
  induction entries with
  | nil => rfl
  | cons entry entries ih =>
      simp only [List.map_cons, textMember, Draft.ofMembers, decodeTextMembers, Draft.ofJson,
        decodeText]
      exact congrArg (Except.map (entry :: ·)) ih

private theorem exists_entries {entries : List (String × String)} {members : List (String × Json)}
    (h : ∀ member ∈ members, ∃ json, (member.1, json) ∈ entries.map textMember ∧
      member.2.Reorders json) :
    ∃ visited : List (String × String), members = visited.map textMember ∧
      visited ⊆ entries := by
  induction members with
  | nil => exact ⟨[], rfl, List.nil_subset _⟩
  | cons member members ih =>
      rw [List.forall_mem_cons] at h
      obtain ⟨⟨json, hjson, hreorders⟩, hmembers⟩ := h
      obtain ⟨visited, rfl, hvisited⟩ := ih hmembers
      obtain ⟨entry, hentry, heq⟩ := List.mem_map.mp hjson
      obtain ⟨key, held⟩ := member
      cases heq
      obtain rfl := hreorders.eq_string
      exact ⟨entry :: visited, rfl, List.cons_subset.mpr ⟨hentry, hvisited⟩⟩

theorem readsBack_nameMap (map : NameMap String) :
    ReadsBack decodeNameMap (textMapJson map) (.ok ()) map := by
  intro written h
  have hkeys := map.nodup_keys
  rw [← keys_textMember] at hkeys
  obtain ⟨members, rfl, hnames, hmembers⟩ := Reorders.of_ofMembers hkeys h
  obtain ⟨entries, rfl, hentries⟩ := exists_entries hmembers
  have hnodup := hnames.nodup_iff.mpr hkeys
  simp only [keys_textMember] at hnames hnodup
  have hlength : map.toList.length ≤ entries.length := by
    simpa using hnames.length_eq.ge
  have hperm : entries.Perm map.toList :=
    (List.subperm_of_subset hnodup.of_map hentries).perm_of_length_le hlength
  simp only [decodeNameMap, Draft.ofJson, decodeTextMap, decodeTextMembers_textMember]
  exact congrArg Except.ok (NameMap.ofList_of_perm hperm)

/-! ## Sequences -/

private theorem mapM_ofItems {α : Type} {decodeItem : Draft → Except DecodeError α}
    {write : α → Json} {check : α → Except DecodeError Unit} {items : List α}
    (h : ∀ item ∈ items, ReadsBack decodeItem (write item) (check item) item)
    {written : List Json} (hwritten : List.Forall₂ Reorders written (items.map write)) :
    (Draft.ofItems written).mapM decodeItem = (items.forM check).map fun () => items := by
  induction items generalizing written with
  | nil =>
      cases hwritten
      rfl
  | cons item items ih =>
      rw [List.forall_mem_cons] at h
      cases hwritten with
      | @cons first _ rest _ hfirst hrest =>
          have hcheck : (item :: items).forM check = check item >>= fun _ => items.forM check :=
            rfl
          rw [Draft.ofItems, List.mapM_cons, h.1 first hfirst, ih h.2 hrest, hcheck]
          cases check item with
          | error error => rfl
          | ok value => cases items.forM check <;> rfl

theorem readsBack_sequence {α : Type} {decodeItem : Draft → Except DecodeError α}
    {write : α → Json} {check : α → Except DecodeError Unit} {items : List α}
    (h : ∀ item ∈ items, ReadsBack decodeItem (write item) (check item) item) :
    ReadsBack (decodeSequence decodeItem) (.array (items.map write)) (items.forM check)
      items := by
  intro written hreorders
  obtain ⟨drafts, rfl, hdrafts⟩ := hreorders.of_array
  simp only [Draft.ofJson, decodeSequence, mapM_ofItems h hdrafts]
  cases items.forM check <;> rfl

/-- Nothing is refused in a sequence of items of which none is ever refused. -/
theorem readsBack_always {α : Type} {decodeItem : Draft → Except DecodeError α}
    {write : α → Json} (h : ∀ item, ReadsBack decodeItem (write item) (.ok ()) item)
    (items : List α) :
    ReadsBack (decodeSequence decodeItem) (.array (items.map write)) (.ok ()) items := by
  have hchecks : items.forM (fun _ => (.ok () : Except DecodeError Unit)) = .ok () := by
    induction items with
    | nil => rfl
    | cons item items ih => exact ih
  rw [← hchecks]
  exact readsBack_sequence fun item _ => h item

/-! ## Records -/

section Records

variable {Parts Record : Type} {shape : Shape Parts Record} {expected : List (String × Json)}
  {held : List String → Parts} {guarded : String} {check : Except DecodeError Unit}
  {record : Record}

/--
A record is written with the members `expected`; `held` gives the parts in which the given
keys have been read.  Only the part with the key `guarded` may be refused, by `check`.
-/
structure Shape.Reads (shape : Shape Parts Record) (expected : List (String × Json))
    (held : List String → Parts) (guarded : String) (check : Except DecodeError Unit)
    (record : Record) : Prop where
  keys : (expected.map Prod.fst).Nodup
  guarded_mem : guarded ∈ expected.map Prod.fst
  start : shape.start = held []
  put : ∀ key json, (key, json) ∈ expected → ∀ written : Json, written.Reorders json →
    ∀ read, key ∉ read →
      shape.put key (.ofJson written) (held read) =
        some ((if key = guarded then check else .ok ()).map fun () => held (key :: read))
  finish : ∀ read, expected.map Prod.fst ⊆ read → shape.finish (held read) = .ok record

/-- By induction on the members that are still to be read. -/
private theorem Shape.Reads.decodeMembers (h : shape.Reads expected held guarded check record)
    {members : List (String × Json)}
    (hmembers : ∀ member ∈ members, ∃ json, (member.1, json) ∈ expected ∧
      member.2.Reorders json)
    (hnodup : (members.map Prod.fst).Nodup) (read : List String)
    (hfresh : ∀ member ∈ members, member.1 ∉ read) :
    shape.decodeMembers (held read) (Draft.ofMembers members) =
      (if guarded ∈ members.map Prod.fst then check else .ok ()).map fun () =>
        held ((members.map Prod.fst).reverse ++ read) := by
  induction members generalizing read with
  | nil => rfl
  | cons member members ih =>
      obtain ⟨key, written⟩ := member
      rw [List.forall_mem_cons] at hmembers hfresh
      obtain ⟨⟨json, hjson, hreorders⟩, hmembers⟩ := hmembers
      rw [List.map_cons, List.nodup_cons] at hnodup
      have hrest := ih hmembers hnodup.2 (key :: read) fun member hmember => by
        have hname : member.1 ∈ members.map Prod.fst := List.mem_map_of_mem hmember
        have hother : member.1 ≠ key := fun heq => hnodup.1 (heq ▸ hname)
        simp [hother, hfresh.2 member hmember]
      simp only [Draft.ofMembers, Shape.decodeMembers,
        h.put key json hjson written hreorders read hfresh.1]
      by_cases hkey : key = guarded
      · subst hkey
        simp only [hnodup.1, if_false, if_true] at hrest ⊢
        cases check with
        | error error => simp [Except.map]
        | ok value => simp [Except.map, hrest]
      · have hother : guarded ≠ key := fun heq => hkey heq.symm
        simp only [if_neg hkey, List.map_cons, List.mem_cons, hother, false_or,
          List.reverse_cons, List.append_assoc, List.singleton_append]
        exact hrest

theorem Shape.Reads.readsBack (h : shape.Reads expected held guarded check record) :
    ReadsBack shape.decode (ofMembers expected) check record := by
  intro written hreorders
  obtain ⟨members, rfl, hnames, hmembers⟩ := Reorders.of_ofMembers h.keys hreorders
  have hread := h.decodeMembers hmembers (hnames.nodup_iff.mpr h.keys) [] (by simp)
  have hguarded : guarded ∈ members.map Prod.fst := hnames.mem_iff.mpr h.guarded_mem
  rw [if_pos hguarded, List.append_nil, ← h.start] at hread
  simp only [Draft.ofJson, Shape.decode, hread]
  cases check with
  | error error => rfl
  | ok value =>
      have hfinish := h.finish (members.map Prod.fst).reverse fun key hkey =>
        List.mem_reverse.mpr (hnames.mem_iff.mpr hkey)
      simp [Except.map, bind, Except.bind, unlessDamaged, hfinish]

/-- The value of a key that has not been read before. -/
theorem putOnce_readsBack {α : Type} {decode : Draft → Except DecodeError α} {json : Json}
    {check : Except DecodeError Unit} {value : α} (h : ReadsBack decode json check value)
    {written : Json} (hwritten : written.Reorders json) (key : String) {old : Option α}
    (hold : old = none) {set : α → Parts} {result : Parts} (hset : set value = result) :
    putOnce key old (decode (.ofJson written)) set = some (check.map fun () => result) := by
  subst hold hset
  rw [putOnce, h written hwritten]
  cases check <;> rfl

end Records

/-! ## Declarations -/

def FieldDecl.partsRead (decl : FieldDecl) (read : List String) : FieldParts :=
  ⟨if "name" ∈ read then some decl.name else none,
    if "type" ∈ read then some decl.type else none,
    if "tags" ∈ read then some decl.tags else none⟩

theorem FieldDecl.reads (decl : FieldDecl) :
    fieldShape.Reads
      [("name", .string decl.name), ("type", .string decl.type.text),
        ("tags", textMapJson decl.tags)]
      decl.partsRead "type" (checkType decl.type) decl where
  keys := by simp
  guarded_mem := by simp
  start := rfl
  put := by
    intro key json hmem written hwritten read hfresh
    simp only [List.mem_cons, List.not_mem_nil, or_false, Prod.mk.injEq] at hmem
    rcases hmem with ⟨rfl, rfl⟩ | ⟨rfl, rfl⟩ | ⟨rfl, rfl⟩
    · exact putOnce_readsBack (readsBack_text decl.name) hwritten _ (if_neg hfresh)
        (by simp [partsRead])
    · exact putOnce_readsBack (readsBack_fieldType decl.type) hwritten _ (if_neg hfresh)
        (by simp [partsRead])
    · exact putOnce_readsBack (readsBack_nameMap decl.tags) hwritten _ (if_neg hfresh)
        (by simp [partsRead])
  finish := by
    intro read hread
    simp only [List.map_cons, List.cons_subset] at hread
    obtain ⟨hname, htype, htags, -⟩ := hread
    simp [fieldShape, partsRead, hname, htype, htags]

private theorem FieldDecl.readsBack (decl : FieldDecl) :
    ReadsBack fieldShape.decode decl.toJson (checkType decl.type) decl :=
  decl.reads.readsBack

def SchemaDecl.checkTypes (decl : SchemaDecl) : Except DecodeError Unit :=
  decl.fields.forM fun field => checkType field.type

def SchemaDecl.partsRead (decl : SchemaDecl) (read : List String) : SchemaParts :=
  ⟨if "name" ∈ read then some decl.name else none,
    if "fields" ∈ read then some decl.fields else none,
    if "comment" ∈ read then some decl.comment else none⟩

theorem SchemaDecl.reads (decl : SchemaDecl) :
    schemaShape.Reads
      [("name", .string decl.name), ("fields", .array (decl.fields.map (·.toJson))),
        ("comment", optionalTextJson decl.comment)]
      decl.partsRead "fields" decl.checkTypes decl where
  keys := by simp
  guarded_mem := by simp
  start := rfl
  put := by
    intro key json hmem written hwritten read hfresh
    simp only [List.mem_cons, List.not_mem_nil, or_false, Prod.mk.injEq] at hmem
    rcases hmem with ⟨rfl, rfl⟩ | ⟨rfl, rfl⟩ | ⟨rfl, rfl⟩
    · exact putOnce_readsBack (readsBack_text decl.name) hwritten _ (if_neg hfresh)
        (by simp [partsRead])
    · exact putOnce_readsBack (readsBack_sequence fun field _ => field.readsBack) hwritten _
        (if_neg hfresh) (by simp [partsRead])
    · exact putOnce_readsBack (readsBack_optionalText decl.comment) hwritten _
        (if_neg hfresh) (by simp [partsRead])
  finish := by
    intro read hread
    simp only [List.map_cons, List.cons_subset] at hread
    obtain ⟨hname, hfields, hcomment, -⟩ := hread
    simp [schemaShape, partsRead, hname, hfields, hcomment]

private theorem SchemaDecl.readsBack (decl : SchemaDecl) :
    ReadsBack schemaShape.decode decl.toJson decl.checkTypes decl :=
  decl.reads.readsBack

def MappingDecl.partsRead (decl : MappingDecl) (read : List String) : MappingParts :=
  ⟨if "source" ∈ read then some decl.source else none,
    if "destination" ∈ read then some decl.destination else none,
    if "fields" ∈ read then some decl.overrides else none,
    if "skip" ∈ read then some decl.skipped else none,
    if "policy" ∈ read then some decl.policy else none⟩

/-- No part of a mapping is ever refused. -/
theorem MappingDecl.reads (decl : MappingDecl) :
    mappingShape.Reads
      [("source", .string decl.source), ("destination", .string decl.destination),
        ("fields", textMapJson decl.overrides), ("skip", .array (decl.skipped.map .string)),
        ("policy", .string decl.policy.name)]
      decl.partsRead "policy" (.ok ()) decl where
  keys := by simp
  guarded_mem := by simp
  start := rfl
  put := by
    intro key json hmem written hwritten read hfresh
    simp only [List.mem_cons, List.not_mem_nil, or_false, Prod.mk.injEq] at hmem
    rcases hmem with ⟨rfl, rfl⟩ | ⟨rfl, rfl⟩ | ⟨rfl, rfl⟩ | ⟨rfl, rfl⟩ | ⟨rfl, rfl⟩
    · exact putOnce_readsBack (readsBack_text decl.source) hwritten _ (if_neg hfresh)
        (by simp [partsRead])
    · exact putOnce_readsBack (readsBack_text decl.destination) hwritten _ (if_neg hfresh)
        (by simp [partsRead])
    · exact putOnce_readsBack (readsBack_nameMap decl.overrides) hwritten _ (if_neg hfresh)
        (by simp [partsRead])
    · exact putOnce_readsBack (readsBack_always readsBack_text decl.skipped) hwritten _
        (if_neg hfresh) (by simp [partsRead])
    · exact putOnce_readsBack (readsBack_policy decl.policy) hwritten _ (if_neg hfresh)
        (by simp [partsRead])
  finish := by
    intro read hread
    simp only [List.map_cons, List.cons_subset] at hread
    obtain ⟨hsource, hdestination, hfields, hskip, hpolicy, -⟩ := hread
    simp [mappingShape, partsRead, hsource, hdestination, hfields, hskip, hpolicy]

private theorem MappingDecl.readsBack (decl : MappingDecl) :
    ReadsBack mappingShape.decode decl.toJson (.ok ()) decl :=
  decl.reads.readsBack

def checkTypes (config : Config) : Except DecodeError Unit :=
  config.schemas.forM (·.checkTypes)

def partsRead (config : Config) (read : List String) : ConfigParts :=
  ⟨if "schemas" ∈ read then some config.schemas else none,
    if "mappings" ∈ read then some config.mappings else none⟩

theorem reads (config : Config) :
    configShape.Reads
      [("schemas", .array (config.schemas.map (·.toJson))),
        ("mappings", .array (config.mappings.map (·.toJson)))]
      config.partsRead "schemas" config.checkTypes config where
  keys := by simp
  guarded_mem := by simp
  start := rfl
  put := by
    intro key json hmem written hwritten read hfresh
    simp only [List.mem_cons, List.not_mem_nil, or_false, Prod.mk.injEq] at hmem
    rcases hmem with ⟨rfl, rfl⟩ | ⟨rfl, rfl⟩
    · exact putOnce_readsBack (readsBack_sequence fun schema _ => schema.readsBack) hwritten _
        (if_neg hfresh) (by simp [partsRead])
    · exact putOnce_readsBack (readsBack_always MappingDecl.readsBack config.mappings) hwritten _
        (if_neg hfresh) (by simp [partsRead])
  finish := by
    intro read hread
    simp only [List.map_cons, List.cons_subset] at hread
    obtain ⟨hschemas, hmappings, -⟩ := hread
    simp [configShape, partsRead, hschemas, hmappings]

theorem readsBack (config : Config) :
    ReadsBack configShape.decode config.toJson config.checkTypes config :=
  config.reads.readsBack

end Reshape.Config
