import CloudData.Access.Entry
import CloudData.Entity.Message
import CloudData.Json.Text
import CloudData.Key.Draft
import CloudData.Log.Capture
import CloudData.Parameter.Family
import CloudData.Query.Request
import CloudData.Wire.Catalogue
import CloudData.Proofs.Access.Entry
import CloudData.Proofs.Entity.Agreement
import CloudData.Proofs.Entity.Reread
import CloudData.Proofs.Key.Parents
import CloudData.Proofs.Parameter.Bag
import CloudData.Proofs.Parameter.Filling
import CloudData.Proofs.Parameter.Text
import CloudData.Proofs.Query.Cursor
import CloudData.Proofs.Query.FilterTree
import CloudData.Proofs.Query.Gql
import CloudData.Proofs.Query.Reuse
import CloudData.Proofs.Query.Structured
import CloudData.Proofs.Result.Batch
import CloudData.Proofs.Result.Classify
import CloudData.Proofs.Result.Split
import CloudData.Proofs.Result.WriteBack
import CloudData.Proofs.Wire.Catalogue
