import RecordSchema.PassThroughHash
import RecordSchema.Source.Code
import RecordSchema.Encoder.Session
import RecordSchema.Proofs.Faithfulness
import RecordSchema.Proofs.Failure
import RecordSchema.Proofs.Permanence
import RecordSchema.Proofs.Budget
import RecordSchema.Proofs.Providers
import RecordSchema.Proofs.WriteOnce
import RecordSchema.Proofs.Permutation
import RecordSchema.Proofs.OpenPaths
import RecordSchema.Proofs.ErrorOrigin
import RecordSchema.Proofs.LocalRequirement
import RecordSchema.Proofs.PointerTransparency
import RecordSchema.Proofs.Indices
import RecordSchema.Proofs.ListMode
import RecordSchema.Proofs.Course.Arguments
import RecordSchema.Proofs.FailedObjects
import RecordSchema.Proofs.CachedFields
import RecordSchema.Proofs.Obstacles
import RecordSchema.Proofs.ArgumentMode
import RecordSchema.Proofs.ObjectRequests
import RecordSchema.Proofs.FieldWalks
import RecordSchema.Proofs.HookHistory
import RecordSchema.Proofs.UniquePaths
import RecordSchema.Proofs.MapHistories
import RecordSchema.Proofs.NonNullLayers
import RecordSchema.Proofs.FieldOptions
import RecordSchema.Proofs.RecordAcceptance
import RecordSchema.Proofs.MemberPaths
import RecordSchema.Proofs.Display
import RecordSchema.Proofs.StrippedPointers
import RecordSchema.Proofs.HashedBytes
