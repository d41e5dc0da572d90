import TransitRevenue.Record.Field
/-!
Routes as the rest of the library refers to them: an identifier and a display name.
-/

namespace TransitRevenue

/-- A route's identity. -/
structure RouteRef where
  routeId : Int
  name : String
  deriving BEq, Repr, Inhabited

namespace RouteRef

/-- The name shown for a route that is referenced but not on record. -/
def unknownName : String := "Unknown route"

/-- The name of a route between two cities: `origin - destination`. -/
def nameBetween (origin destination : String) : String := origin ++ " - " ++ destination

/-- A route as data. -/
def toValue (r : RouteRef) : Value := .obj [("route_id", .int r.routeId), ("route_name", .str r.name)]

/-- A route read from its fields. -/
def ofValue (v : Value) : Except Issue RouteRef := do
  let fs ← Fields.ofValue "RouteRef" v
  return { routeId := ← fs.req "route_id" Field.int, name := ← fs.req "route_name" Field.str }

end RouteRef

end TransitRevenue
