import ProtoEmit.Unit
import ProtoEmit.Json.Writer
import ProtoEmit.Schema.Encode
import ProtoEmit.Toml.Reader
import ProtoEmit.Session
import ProtoEmit.Main
import ProtoEmit.Proofs.ReadBack
import ProtoEmit.Proofs.DeclarationOrder
import ProtoEmit.Proofs.TreeChanges
import ProtoEmit.Proofs.BelowOutput
import ProtoEmit.Proofs.RunChanges
import ProtoEmit.Proofs.DumpOrder
import ProtoEmit.Proofs.EmittedTypes
import ProtoEmit.Proofs.Lifecycle
import ProtoEmit.Proofs.Isolation
import ProtoEmit.Proofs.OpenFolders
import ProtoEmit.Proofs.Rerun
import ProtoEmit.Proofs.DottedNames
import ProtoEmit.Proofs.FreshOutput
import ProtoEmit.Proofs.Decoding
import ProtoEmit.Proofs.IntegerText
import ProtoEmit.Proofs.RoundTrip
import ProtoEmit.Proofs.KeptDocument
import ProtoEmit.Proofs.MessageLayout
import ProtoEmit.Proofs.Failures
import ProtoEmit.Proofs.JsonTokens
import ProtoEmit.Proofs.JsonText
import ProtoEmit.Proofs.TextRoundTrip
import ProtoEmit.Proofs.Alternatives
import ProtoEmit.Proofs.CanonicalPackages
import ProtoEmit.Proofs.EnumValues
import ProtoEmit.Proofs.ValueNames
import ProtoEmit.Proofs.FieldNames
import ProtoEmit.Proofs.Indentation
import ProtoEmit.Proofs.Collisions
import ProtoEmit.Proofs.NameOrder
import ProtoEmit.Proofs.Precedence
import ProtoEmit.Proofs.Preview
import ProtoEmit.Proofs.ReferenceComments
