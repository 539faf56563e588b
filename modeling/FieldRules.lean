import FieldRules.Main
import FieldRules.Proofs.ArgumentList
import FieldRules.Proofs.BoundVerb
import FieldRules.Proofs.CalendarEnd
import FieldRules.Proofs.CheckDigit
import FieldRules.Proofs.CivilDay
import FieldRules.Proofs.DigitlessNumber
import FieldRules.Proofs.DroppedBackslash
import FieldRules.Proofs.EagerSet
import FieldRules.Proofs.EmailAddress
import FieldRules.Proofs.FailedField
import FieldRules.Proofs.FailureMessage
import FieldRules.Proofs.FallbackLocale
import FieldRules.Proofs.LenientNumber
import FieldRules.Proofs.Loading
import FieldRules.Proofs.LocaleTag
import FieldRules.Proofs.Locality
import FieldRules.Proofs.MalformedArgument
import FieldRules.Proofs.MergedMessages
import FieldRules.Proofs.MessageTree
import FieldRules.Proofs.NamedDay
import FieldRules.Proofs.NestedList
import FieldRules.Proofs.NumberlessJson
import FieldRules.Proofs.OpenList
import FieldRules.Proofs.Payload
import FieldRules.Proofs.PlaceScanner
import FieldRules.Proofs.ProtectedSpace
import FieldRules.Proofs.ReadInstant
import FieldRules.Proofs.RecordJson
import FieldRules.Proofs.RecordLine
import FieldRules.Proofs.Revalidation
import FieldRules.Proofs.RuleLists
import FieldRules.Proofs.SettledValue
import FieldRules.Proofs.Shape
import FieldRules.Proofs.SiblingRequirement
import FieldRules.Proofs.TypeForm
import FieldRules.Proofs.UnknownCall
import FieldRules.Proofs.UntouchedTemplate
import FieldRules.Proofs.WrittenInstant
import FieldRules.Proofs.WrittenRule
import FieldRules.Proofs.WrittenValue
