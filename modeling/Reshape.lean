import Reshape.Main
import Reshape.Model.Transformer
import Reshape.Proofs.Record.RoundTrip
import Reshape.Proofs.Registry.Failure
import Reshape.Proofs.Registry.Faithful
import Reshape.Proofs.Registry.ReadBack
import Reshape.Proofs.Record.Visibility
import Reshape.Proofs.Registry.Batch
import Reshape.Proofs.Registry.Noninterference
import Reshape.Proofs.Model.Typing
import Reshape.Proofs.Model.Transformer
import Reshape.Proofs.Transformer.Narrowing
import Reshape.Proofs.Transformer.Pointwise
import Reshape.Proofs.Transformer.Insertion
import Reshape.Proofs.Transformer.Events
import Reshape.Proofs.Schema.Precedence
import Reshape.Proofs.Transformer.Verdict
import Reshape.Proofs.Json.Arrangement
import Reshape.Proofs.FieldType.Text
import Reshape.Proofs.Config.Decoding
import Reshape.Proofs.Config.RoundTrip
import Reshape.Proofs.FieldType.Grammar
import Reshape.Proofs.Coercion.Modular
import Reshape.Proofs.Record.Pointwise
import Reshape.Proofs.Record.Filling
import Reshape.Proofs.Coercion.Octets
import Reshape.Proofs.Value.Conformance
import Reshape.Proofs.Coercion.Overlap
import Reshape.Proofs.Transformer.Build
import Reshape.Proofs.Model.Bijection
