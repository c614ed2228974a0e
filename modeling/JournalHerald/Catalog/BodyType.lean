import JournalHerald.Text.Lowercase

/-!
# Bodies

The types of bodies that the journal names as the nearest one to a ship.

* `BodyType.identifier` is the journal's word for a type, `BodyType.ofIdentifier?` reads it in any case;
* `BodyType.description` is what a message shows, which is nothing in deep space.
-/

namespace JournalHerald

/-- A type of body, as met near a ship. The member `null` stands for deep space. -/
inductive BodyType where
  | null | star | planet | planetaryRing | stellarRing | station | asteroidCluster | smallBody
  deriving DecidableEq, Repr, Inhabited

namespace BodyType

/-- Every member, in the order of the catalogue. -/
def all : List BodyType :=
  [.null, .star, .planet, .planetaryRing, .stellarRing, .station, .asteroidCluster, .smallBody]

theorem mem_all (x : BodyType) : x ∈ all := by
  cases x <;> decide

/-- The name of a member. -/
def name : BodyType → Text
  | .null => "Null"
  | .star => "Star"
  | .planet => "Planet"
  | .planetaryRing => "PlanetaryRing"
  | .stellarRing => "StellarRing"
  | .station => "Station"
  | .asteroidCluster => "AsteroidCluster"
  | .smallBody => "SmallBody"

/-- The identifier that the journal writes. -/
def identifier (x : BodyType) : Text := x.name

/-- How a member is shown: a registered description, or else its identifier. -/
def description : BodyType → Text
  | .null => ""
  | .planetaryRing => "Planetary ring"
  | .stellarRing => "Stellar ring"
  | .asteroidCluster => "Asteroid cluster"
  | .smallBody => "Small body"
  | x => x.identifier

/-- The member with a given identifier, in any letter case. -/
def ofIdentifier? (s : Text) : Option BodyType :=
  let wanted := Text.lowercase s
  all.find? fun x => Text.lowercase x.identifier == wanted

/-- The member with exactly this name. -/
def ofName? (s : Text) : Option BodyType :=
  all.find? fun x => x.name == s

end BodyType

end JournalHerald
