import Regrid.Array.Listing
import Regrid.Catalogue
import Regrid.Json.Document
import Regrid.Mesh.Edit
import Regrid.Mesh.Transform
import Regrid.Proofs.Coupling.Conservation
import Regrid.Proofs.Mesh.Arrangement
import Regrid.Proofs.Sparse.Rows
import Regrid.Proofs.Store.Acceptance
import Regrid.Proofs.Store.RoundTrip
import Regrid.Scalar.Rational
import Regrid.Shared.AccumulatorSpace
import Regrid.Shared.CouplingSpace
import Regrid.Shared.OperatorSpace
import Regrid.Store.Edit
import Regrid.Store.Folder
import Regrid.Store.Frames
import Regrid.Proofs.Sparse.Stored
import Regrid.Proofs.Coupling.Entries
import Regrid.Proofs.Coupling.Averages
import Regrid.Proofs.Coupling.Layout
import Regrid.Proofs.Shared.CouplingSpace
import Regrid.Proofs.Shared.Layout
import Regrid.Proofs.Mesh.Restriction
import Regrid.Proofs.Coupling.Restriction
import Regrid.Proofs.Shared.Filtering
import Regrid.Proofs.Shared.Restriction
import Regrid.Proofs.Sparse.Growth
import Regrid.Proofs.Sparse.Triples
import Regrid.Proofs.Shared.OperatorSpace
import Regrid.Proofs.Store.SeveralGrids
import Regrid.Proofs.Coupling.Persistence
import Regrid.Proofs.Sparse.Assembly
import Regrid.Proofs.Store.Refusals
import Regrid.Proofs.Shared.Rearrangement
import Regrid.Proofs.Shared.Sharing
import Regrid.Proofs.Sparse.IndexSet
import Regrid.Proofs.Shared.Numbering
import Regrid.Proofs.Refusal
import Regrid.Proofs.Sparse.Views
import Regrid.Proofs.Shared.Views
import Regrid.Proofs.Shared.Combination
import Regrid.Proofs.Coupling.Realization
import Regrid.Proofs.Coupling.CoveredArea
import Regrid.Proofs.Shared.Realization
import Regrid.Proofs.Scalar.Double
import Regrid.Proofs.Mesh.Rectangles
import Regrid.Proofs.Shared.SubMesh
import Regrid.Proofs.Shared.Rectangles
import Regrid.Proofs.Shared.Canonical
import Regrid.Proofs.Polygon.Area
import Regrid.Proofs.Coupling.RefusedAreas
import Regrid.Proofs.Shared.RefusedFilter
import Regrid.Proofs.Shared.RefusedInsertion
import Regrid.Proofs.Shared.Totals
import Regrid.Proofs.Polygon.Centroid
import Regrid.Proofs.Scalar.Difference
import Regrid.Proofs.Config.Coverage
import Regrid.Proofs.Sparse.Bijection
import Regrid.Proofs.Array.Writing
import Regrid.Proofs.Sparse.Placement
