import ValueRules.Builtins
import ValueRules.Builtins.Cached
import ValueRules.Decoding
import ValueRules.Proofs.Builder.Warning
import ValueRules.Proofs.Builtins.Address
import ValueRules.Proofs.Builtins.Agreement
import ValueRules.Proofs.Builtins.Caching
import ValueRules.Proofs.Builtins.IntegerTexts
import ValueRules.Proofs.Builtins.Lengths
import ValueRules.Proofs.Builtins.Malformed
import ValueRules.Proofs.Chain.Ambiguity
import ValueRules.Proofs.Chain.Concatenation
import ValueRules.Proofs.Decoding.Delimiters
import ValueRules.Proofs.Engine.Check
import ValueRules.Proofs.Engine.Handover
import ValueRules.Proofs.Engine.Reach
import ValueRules.Proofs.Engine.Reordering
import ValueRules.Proofs.Engine.Sequence
import ValueRules.Proofs.Engine.Transcript
import ValueRules.Proofs.Engine.Validation
import ValueRules.Proofs.Registry.Calls
import ValueRules.Proofs.Registry.LastWrite
import ValueRules.Text.Cut
import ValueRules.Text.Quoted
