import Reshape.Proofs.Transformer.Pointwise

/-!
# Events of a transformation

A transformation tells of each destination field by itself.  Under a permissive policy its
events are what it tells of the fields, one after the other; under a strict one they end with
the first field that has a fault.  A field with a fault is told of by one event of level
`debug`, and no other field is.
-/

namespace Reshape

/-! ## Events of mismatches -/

def Event.isDebug (event : Event) : Bool := event.level == .debug

/-- The event that stands for the mismatch where the policy does not make it an error. -/
inductive TransformError.ReportedBy : TransformError → Event → Prop where
  | unresolvedField (record field lookup : String) :
      ReportedBy (.unresolvedField record field) (.fieldUnresolved record field lookup)
  | coercionFailed (record field : String) (source target : FieldType) :
      ReportedBy (.coercionFailed record field source target)
        (.coercionSkipped record field source target)

namespace Transformer

variable {transformer : Transformer} {record : Record} {values : List Value}
  {field : Field} {error : TransformError} {events : List Event} {policy : Policy}

/-! ## What is told of a field -/

/-- The events that tell of a destination field, whatever the policy. -/
inductive Reports (transformer : Transformer) (values : List Value) (field : Field) :
    List Event → Prop where
  | leftOut :
      transformer.mapping.isSkipped field.name = true →
      Reports transformer values field []
  | unresolved :
      transformer.mapping.isSkipped field.name = false →
      transformer.source.resolve? (transformer.mapping.sourceName field.name) = none →
      Reports transformer values field
        [.fieldUnresolved transformer.destination.name field.name
          (transformer.mapping.sourceName field.name)]
  | coerced (found : FieldMatch) (value : Value) :
      transformer.mapping.isSkipped field.name = false →
      transformer.source.resolve? (transformer.mapping.sourceName field.name) =
        some found →
      values[found.index]? = some value →
      value.coerce found.field.type field.type ≠ .skipped →
      Reports transformer values field
        [.fieldResolved field.name found.field.name found.kind]
  | uncoercible (found : FieldMatch) (value : Value) :
      transformer.mapping.isSkipped field.name = false →
      transformer.source.resolve? (transformer.mapping.sourceName field.name) =
        some found →
      values[found.index]? = some value →
      value.coerce found.field.type field.type = .skipped →
      Reports transformer values field
        [.fieldResolved field.name found.field.name found.kind,
          .coercionSkipped transformer.destination.name field.name
            found.field.type field.type]

def report (transformer : Transformer) (values : List Value) (field : Field) : List Event :=
  (transformer.outcome values field).events transformer field

theorem report_withPolicy : (transformer.withPolicy policy).report = transformer.report := by
  funext values field
  unfold report
  rw [outcome_withPolicy]
  cases transformer.outcome values field <;> rfl

theorem reports_report (hschema : record.schema = transformer.source)
    (hcomplete : record.Complete) (field : Field) :
    transformer.Reports record.values field (transformer.report record.values field) := by
  unfold report
  rcases outcome_cases hschema hcomplete field with
    ⟨hskipped, houtcome⟩ | ⟨hkept, hnone, houtcome⟩ |
      ⟨hkept, found, value, hfound, hvalue, houtcome⟩
  · rw [houtcome]
    exact .leftOut hskipped
  · rw [houtcome]
    exact .unresolved hkept hnone
  · rw [houtcome]
    cases hcoercion : value.coerce found.field.type field.type with
    | skipped => exact .uncoercible found value hkept hfound hvalue hcoercion
    | assigned _ | absent =>
        exact .coerced found value hkept hfound hvalue (by simp [hcoercion])

/-- A field with a fault is told of by one event of level `debug`, which is the last one. -/
theorem Reports.of_fault (hreports : transformer.Reports values field events)
    (hfault : transformer.Fault values field error) :
    ∃ event, error.ReportedBy event ∧ events.getLast? = some event ∧
      events.filter Event.isDebug = [event] := by
  cases hfault with
  | unresolved hkept hnone =>
      cases hreports with
      | leftOut hskipped => simp [hskipped] at hkept
      | unresolved _ _ => exact ⟨_, .unresolvedField _ _ _, rfl, rfl⟩
      | coerced found _ _ hfound _ _ => simp [hnone] at hfound
      | uncoercible found _ _ hfound _ _ => simp [hnone] at hfound
  | uncoercible found value hkept hfound hvalue hcoercion =>
      cases hreports with
      | leftOut hskipped => simp [hskipped] at hkept
      | unresolved _ hnone => simp [hnone] at hfound
      | coerced other held _ hother hheld hcoerced =>
          obtain rfl := Option.some.inj (hfound.symm.trans hother)
          obtain rfl := Option.some.inj (hvalue.symm.trans hheld)
          exact absurd hcoercion hcoerced
      | uncoercible other held _ hother _ _ =>
          obtain rfl := Option.some.inj (hfound.symm.trans hother)
          exact ⟨_, .coercionFailed _ _ _ _, rfl, rfl⟩

theorem Reports.of_not_faulty (hreports : transformer.Reports values field events)
    (h : ¬transformer.Faulty values field) : events.filter Event.isDebug = [] := by
  cases hreports with
  | leftOut _ | coerced _ _ _ _ _ _ => rfl
  | unresolved hkept hnone => exact absurd ⟨_, .unresolved hkept hnone⟩ h
  | uncoercible found value hkept hfound hvalue hcoercion =>
      exact absurd ⟨_, .uncoercible found value hkept hfound hvalue hcoercion⟩ h

private theorem Reports.levels (hreports : transformer.Reports values field events) :
    ∀ event ∈ events, event.level = .trace ∨ event.level = .debug := by
  cases hreports with
  | leftOut _ => simp
  | unresolved _ _ => simp [Event.level]
  | coerced _ _ _ _ _ _ => simp [Event.level]
  | uncoercible _ _ _ _ _ _ => simp [Event.level]

/-- The events of a field tell once of its fault, if it has one, and of none otherwise. -/
structure Tells (transformer : Transformer) (values : List Value) (field : Field)
    (events : List Event) : Prop where
  reports : transformer.Reports values field events
  levels : ∀ event ∈ events, event.level = .trace ∨ event.level = .debug
  of_fault : ∀ error, transformer.Fault values field error →
    ∃ event, error.ReportedBy event ∧ events.filter Event.isDebug = [event]
  of_not_faulty : ¬transformer.Faulty values field → events.filter Event.isDebug = []

private theorem tells_report (hschema : record.schema = transformer.source)
    (hcomplete : record.Complete) (field : Field) :
    transformer.Tells record.values field (transformer.report record.values field) where
  reports := reports_report hschema hcomplete field
  levels := (reports_report hschema hcomplete field).levels
  of_fault error hfault := by
    obtain ⟨event, hevent, -, hdebug⟩ :=
      (reports_report hschema hcomplete field).of_fault hfault
    exact ⟨event, hevent, hdebug⟩
  of_not_faulty := (reports_report hschema hcomplete field).of_not_faulty

private theorem filled_of_faulty (h : transformer.Faulty values field) :
    transformer.filled values field = Value.zero field.type := by
  obtain ⟨_, hfault⟩ := h
  cases hfault with
  | unresolved _ hnone => exact filled_of_unresolved hnone
  | uncoercible found value hkept hfound hvalue hcoercion =>
      have hreceives : transformer.Receives values field (Value.zero field.type) :=
        .unassigned found value hkept hfound hvalue (.inr hcoercion)
      exact hreceives.eq_filled.symm

/-! ## Events of a run -/

theorem events_run (h : record.schema = transformer.source) :
    (transformer.run (some record)).events =
      (Traced.forEach (transformer.fillField record.values)
        transformer.destination.fields).events := by
  simp only [run, Record.hasSchema_iff.mpr h, if_true, Traced.events_map]

theorem exists_result_fillField (h : transformer.fieldError? values field = none) :
    ∃ value, (transformer.fillField values field).result = .ok value :=
  ⟨_, result_fillField_eq_ok_iff.mpr ⟨h, rfl⟩⟩

theorem events_run_of_ok (transformer : Transformer)
    (hschema : record.schema = transformer.source)
    (h : ∀ field ∈ transformer.destination.fields,
      transformer.fieldError? record.values field = none) :
    (transformer.run (some record)).events =
      transformer.destination.fields.flatMap (transformer.report record.values) := by
  have hevents := Traced.events_forEach_append
    (fun field hfield => exists_result_fillField (h field hfield)) []
  rw [List.append_nil] at hevents
  rw [events_run hschema, hevents]
  exact List.append_nil _

/-- The fields after the first failure are not told of. -/
theorem events_run_of_error (transformer : Transformer)
    (hschema : record.schema = transformer.source) {before after : List Field}
    (hfields : transformer.destination.fields = before ++ field :: after)
    (hbefore : ∀ earlier ∈ before, transformer.fieldError? record.values earlier = none)
    (herror : transformer.fieldError? record.values field = some error) :
    (transformer.run (some record)).events =
      before.flatMap (transformer.report record.values) ++
        transformer.report record.values field := by
  rw [events_run hschema, hfields,
    Traced.events_forEach_append
      (fun earlier hearlier => exists_result_fillField (hbefore earlier hearlier)),
    Traced.events_forEach_cons_of_error (result_fillField_eq_error_iff.mpr herror)]
  rfl

/-! ## Events under the two policies -/

theorem events_permissive (hschema : record.schema = transformer.source)
    (hcomplete : record.Complete) :
    ((transformer.withPolicy .permissive).run (some record)).events =
      transformer.destination.fields.flatMap (transformer.report record.values) := by
  have hevents := events_run_of_ok (transformer.withPolicy .permissive) hschema
    fun field _ => fieldError?_permissive hschema hcomplete field
  rwa [report_withPolicy] at hevents

theorem events_strict_of_ok (hschema : record.schema = transformer.source)
    (hcomplete : record.Complete)
    (h : ∀ field ∈ transformer.destination.fields,
      ¬transformer.Faulty record.values field) :
    ((transformer.withPolicy .strict).run (some record)).events =
      transformer.destination.fields.flatMap (transformer.report record.values) := by
  have hevents := events_run_of_ok (transformer.withPolicy .strict) hschema
    fun field hfield => (fieldError?_strict_eq_none_iff hschema hcomplete).mpr (h field hfield)
  rwa [report_withPolicy] at hevents

theorem events_strict_of_fault (hschema : record.schema = transformer.source)
    (hcomplete : record.Complete) {before after : List Field}
    (hfields : transformer.destination.fields = before ++ field :: after)
    (hbefore : ∀ earlier ∈ before, ¬transformer.Faulty record.values earlier)
    (hfault : transformer.Fault record.values field error) :
    ((transformer.withPolicy .strict).run (some record)).events =
      before.flatMap (transformer.report record.values) ++
        transformer.report record.values field := by
  have hpass : ∀ earlier ∈ before,
      (transformer.withPolicy .strict).fieldError? record.values earlier = none :=
    fun earlier hearlier =>
      (fieldError?_strict_eq_none_iff hschema hcomplete).mpr (hbefore earlier hearlier)
  have hevents := events_run_of_error (transformer.withPolicy .strict) hschema hfields hpass
    ((fieldError?_strict_eq_some_iff hschema hcomplete).mpr hfault)
  rwa [report_withPolicy] at hevents

theorem debug_report_of_not_faulty (hschema : record.schema = transformer.source)
    (hcomplete : record.Complete) {fields : List Field}
    (h : ∀ field ∈ fields, ¬transformer.Faulty record.values field) :
    (fields.flatMap (transformer.report record.values)).filter Event.isDebug = [] := by
  rw [List.filter_flatMap, List.flatMap_eq_nil_iff]
  exact fun field hfield =>
    (reports_report hschema hcomplete field).of_not_faulty (h field hfield)

theorem events_strict_prefix_permissive (hschema : record.schema = transformer.source)
    (hcomplete : record.Complete) :
    ((transformer.withPolicy .strict).run (some record)).events <+:
      ((transformer.withPolicy .permissive).run (some record)).events := by
  rw [events_permissive hschema hcomplete]
  cases hrun : (transformer.withPolicy .strict).transform (some record) with
  | ok out =>
      have hfields := ((transform_strict_eq_ok_iff hschema hcomplete).mp hrun).1
      exact ⟨[], by rw [List.append_nil, events_strict_of_ok hschema hcomplete hfields]⟩
  | error error =>
      obtain ⟨before, field, after, hfields, hbefore, hfault⟩ :=
        (transform_strict_eq_error_iff hschema hcomplete).mp hrun
      rw [events_strict_of_fault hschema hcomplete hfields hbefore hfault, hfields,
        List.flatMap_append, List.flatMap_cons, ← List.append_assoc]
      exact List.prefix_append _ _

/-- A strict run that fails ends with the event of the fault that is its error. -/
private theorem events_strict_of_error (hschema : record.schema = transformer.source)
    (hcomplete : record.Complete)
    (h : (transformer.withPolicy .strict).transform (some record) = .error error) :
    ∃ before field after event,
      transformer.destination.fields = before ++ field :: after ∧
      (∀ earlier ∈ before, ¬transformer.Faulty record.values earlier) ∧
      transformer.Fault record.values field error ∧ error.ReportedBy event ∧
      ((transformer.withPolicy .strict).run (some record)).events =
        (before ++ [field]).flatMap (transformer.report record.values) ∧
      ((transformer.withPolicy .strict).run (some record)).events.getLast? = some event ∧
      ((transformer.withPolicy .strict).run (some record)).events.filter Event.isDebug =
        [event] := by
  obtain ⟨before, field, after, hfields, hbefore, hfault⟩ :=
    (transform_strict_eq_error_iff hschema hcomplete).mp h
  obtain ⟨event, hevent, hlast, hdebug⟩ :=
    (reports_report hschema hcomplete field).of_fault hfault
  rw [events_strict_of_fault hschema hcomplete hfields hbefore hfault]
  refine ⟨before, field, after, event, hfields, hbefore, hfault, hevent, ?_, ?_, ?_⟩
  · rw [List.flatMap_append, List.flatMap_singleton]
  · rw [List.getLast?_append, hlast]
    rfl
  · rw [List.filter_append, debug_report_of_not_faulty hschema hcomplete hbefore, hdebug,
      List.nil_append]

theorem events_match_outcome (transformer : Transformer) (record : Record)
    (hschema : record.schema = transformer.source) (hcomplete : record.Complete) :
    let permissive := (transformer.withPolicy .permissive).run (some record)
    let strict := (transformer.withPolicy .strict).run (some record)
    ∃ out reports,
      permissive.result = .ok out ∧
      List.Forall₂ (transformer.Tells record.values) transformer.destination.fields reports ∧
      permissive.events = reports.flatten ∧
      (∀ (index : Nat) (field : Field), transformer.destination.fields[index]? = some field →
        transformer.Faulty record.values field →
        out.values[index]? = some (Value.zero field.type)) ∧
      strict.events <+: permissive.events ∧
      (∀ result, strict.result = .ok result →
        strict.events = permissive.events ∧ strict.events.filter Event.isDebug = []) ∧
      ∀ error, strict.result = .error error →
        ∃ before field after event,
          transformer.destination.fields = before ++ field :: after ∧
          (∀ earlier ∈ before, ¬transformer.Faulty record.values earlier) ∧
          transformer.Fault record.values field error ∧ error.ReportedBy event ∧
          strict.events = (reports.take (before.length + 1)).flatten ∧
          strict.events.getLast? = some event ∧
          strict.events.filter Event.isDebug = [event] := by
  intro permissive strict
  have hpermissive : permissive.events = _ := events_permissive hschema hcomplete
  refine ⟨_, transformer.destination.fields.map (transformer.report record.values),
    transform_permissive hschema hcomplete, ?_, ?_, ?_,
    events_strict_prefix_permissive hschema hcomplete, ?_, ?_⟩
  · rw [List.forall₂_map_right_iff, List.forall₂_same]
    exact fun field _ => tells_report hschema hcomplete field
  · rw [hpermissive, List.flatMap_def]
  · intro index field hfield hfaulty
    rw [List.getElem?_map, hfield, Option.map_some, filled_of_faulty hfaulty]
  · intro result hresult
    have hfields := ((transform_strict_eq_ok_iff hschema hcomplete).mp hresult).1
    have hstrict : strict.events = _ := events_strict_of_ok hschema hcomplete hfields
    rw [hstrict, hpermissive]
    exact ⟨rfl, debug_report_of_not_faulty hschema hcomplete hfields⟩
  · intro error herror
    obtain ⟨before, field, after, event, hfields, hbefore, hfault, hevent, hevents, hlast,
      hdebug⟩ := events_strict_of_error hschema hcomplete herror
    refine ⟨before, field, after, event, hfields, hbefore, hfault, hevent, ?_, hlast, hdebug⟩
    have htake : transformer.destination.fields.take (before.length + 1) =
        before ++ [field] := by
      rw [hfields, List.take_append, List.take_of_length_le (Nat.le_succ _)]
      simp
    rw [← List.map_take, htake, ← List.flatMap_def]
    exact hevents

/-- The text that is no flag ends the strict run; the permissive one also tells of `c`, which
has no source, and neither tells of `d`, which is left out. -/
theorem events_match_outcome_mismatched :
    let source : Schema := ⟨"Row", [⟨"a", .int .i64, []⟩, ⟨"b", .string, []⟩]⟩
    let destination : Schema :=
      ⟨"Cell", [⟨"a", .int .i8, []⟩, ⟨"d", .uuid, []⟩, ⟨"b", .bool, []⟩, ⟨"c", .json, []⟩]⟩
    let transformer : Transformer := ⟨source, destination, ({} : MappingTable).skip "d"⟩
    let record : Record := ⟨source, [.int .i64 ⟨300, by decide⟩, .string "x"]⟩
    let permissive := (transformer.withPolicy .permissive).run (some record)
    let strict := (transformer.withPolicy .strict).run (some record)
    record.schema = transformer.source ∧ record.Complete ∧
      permissive.events =
        [.fieldResolved "a" "a" .exact, .fieldResolved "b" "b" .exact,
          .coercionSkipped "Cell" "b" .string .bool, .fieldUnresolved "Cell" "c" "c"] ∧
      strict.result = .error (.coercionFailed "Cell" "b" .string .bool) ∧
      strict.events <+: permissive.events ∧
      ∃ event, TransformError.ReportedBy (.coercionFailed "Cell" "b" .string .bool) event ∧
        strict.events.getLast? = some event ∧
        strict.events.filter Event.isDebug = [event] := by
  intro source destination transformer record permissive strict
  obtain ⟨out, reports, -, -, -, -, hstart, -, hstops⟩ :=
    events_match_outcome transformer record rfl rfl
  have herror : strict.result = .error (.coercionFailed "Cell" "b" .string .bool) := by
    with_unfolding_all rfl
  obtain ⟨-, -, -, event, -, -, -, hevent, -, hlast, hdebug⟩ := hstops _ herror
  exact ⟨rfl, rfl, by decide +kernel, herror, hstart, event, hevent, hlast, hdebug⟩

end Transformer

end Reshape
