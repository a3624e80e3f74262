import ApiContract.Main
import ApiContract.Proofs.Client.BuilderNames
import ApiContract.Proofs.Client.ContentTypes
import ApiContract.Proofs.Client.EndpointKeys
import ApiContract.Proofs.Client.ErrorClosure
import ApiContract.Proofs.Client.InputFaults
import ApiContract.Proofs.Client.ModuleFiles
import ApiContract.Proofs.Client.Placeholders
import ApiContract.Proofs.Client.Scopes
import ApiContract.Proofs.Client.SuppliedFiles
import ApiContract.Proofs.Client.WrittenArtifacts
import ApiContract.Proofs.Code.PaddedIdentifiers
import ApiContract.Proofs.CommandLine.Runs
import ApiContract.Proofs.Files.FailedWrites
import ApiContract.Proofs.OpenApi.CoveredOperations
import ApiContract.Proofs.OpenApi.ErasedNodes
import ApiContract.Proofs.OpenApi.HookedBuilds
import ApiContract.Proofs.OpenApi.RequiredInputs
import ApiContract.Proofs.OpenApi.SchemaWords
import ApiContract.Proofs.PreparedExpressions
import ApiContract.Proofs.Spec.CanonicalNodes
import ApiContract.Proofs.Spec.WrittenSpec
