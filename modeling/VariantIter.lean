import VariantIter.Main
import VariantIter.Proofs.Iteration
import VariantIter.Proofs.Unambiguity
import VariantIter.Proofs.Batch
import VariantIter.Proofs.Consistency
import VariantIter.Proofs.Attribution
import VariantIter.Proofs.Surroundings
import VariantIter.Proofs.Configuration
import VariantIter.Proofs.Listing
import VariantIter.Proofs.Footprint
import VariantIter.Proofs.JsonRoundTrip
import VariantIter.Proofs.SavedOptions
import VariantIter.Proofs.Saving
import VariantIter.Proofs.JsonStops
import VariantIter.Proofs.YamlScanning
import VariantIter.Proofs.YamlFaults
import VariantIter.Proofs.Escapes
import VariantIter.Proofs.Tracing
import VariantIter.Proofs.Delivery
import VariantIter.Proofs.KeyOrder
import VariantIter.Proofs.LogSetup
import VariantIter.Proofs.Misfits
import VariantIter.Proofs.Scopes
import VariantIter.Proofs.Names
import VariantIter.Proofs.QualifierForms
import VariantIter.Proofs.SharedSettings
import VariantIter.Proofs.Logging
import VariantIter.Proofs.Mappings
import VariantIter.Proofs.FieldSpellings
import VariantIter.Proofs.Revisions
import VariantIter.Proofs.Validation
import VariantIter.Proofs.GivenOptions
import VariantIter.Proofs.Precedence
import VariantIter.Proofs.Calls
import VariantIter.Proofs.Joining
import VariantIter.Proofs.LetterCase
import VariantIter.Proofs.Enclosing
