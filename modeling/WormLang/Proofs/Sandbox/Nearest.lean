import WormLang.Proofs.Number.Order
import WormLang.Proofs.Soundness.Sandbox

/-!
What a search finds. A member matches if it stands at a finite distance that is not zero, in the direction of the
search up to the tolerance. The search passes over the members once and keeps the nearest match so far; it tests
distances before directions, so that a member that is no nearer than that match is never looked at again. At the end it
has the first of the nearest of all matches, and nothing if there is none.
-/
namespace WormLang

open Number (Defined)

/-- What is known of measures: the direction of a vector of finite length is a finite angle, and any two finite angles
have a difference. -/
structure Measures.Lawful (m : Measures) : Prop where
  bearing_finite {dx dy : Float} (finite : (m.distance dx dy).isFinite = true) : (m.bearing dy dx).isFinite = true
  exists_difference {a b : Float} (first : a.isFinite = true) (second : b.isFinite = true) :
    ∃ off, m.difference a b = .ok off

namespace Angle

/-- A finite angle has a direction. -/
theorem exists_normalize {angle : Float} (finite : angle.isFinite = true) : ∃ d, normalize angle = .ok d := by
  rw [normalize_eq]
  unfold Number.remainder?
  rw [parts_fullTurn]
  cases size : Number.parts angle with
  | nan => exact ⟨_, rfl⟩
  | infinite negative =>
    replace finite : angle.toModel.unpack.isFinite = true := finite
    rw [Number.unpack_eq, size] at finite
    cases finite
  | finite negative m q => exact ⟨_, rfl⟩

theorem exists_difference {a b : Float} (first : a.isFinite = true) (second : b.isFinite = true) :
    ∃ off, difference a b = .ok off := by
  obtain ⟨d, normal⟩ := exists_normalize first
  obtain ⟨d', normal'⟩ := exists_normalize second
  rw [difference_eq, normal, normal']
  exact ⟨_, rfl⟩

end Angle

/-- Angles are compared as the sandbox compares them, whatever measures lengths and directions. -/
theorem Measures.lawful_of_bearing {distance bearing : Float → Float → Float}
    (finite : ∀ dx dy, (distance dx dy).isFinite = true → (bearing dy dx).isFinite = true) :
    Measures.Lawful { distance, bearing, difference := Angle.difference } where
  bearing_finite := finite _ _
  exists_difference := Angle.exists_difference

namespace Arena

/-- A search: the measures, the world, the point and the direction. -/
structure Search where
  measures : Measures
  arena : Arena
  origin : Float × Float
  angle : Float

namespace Search

def distance (s : Search) (place : Float × Float) : Float :=
  s.measures.distance (place.1 - s.origin.1) (place.2 - s.origin.2)

def bearing (s : Search) (place : Float × Float) : Float :=
  s.measures.bearing (place.2 - s.origin.2) (place.1 - s.origin.1)

/-- A being stands elsewhere, at a finite distance, in the direction of the search. -/
def Matches (s : Search) (id : EntityId) (distance : Float) : Prop :=
  ∃ place off, s.arena.position id = .ok place ∧ s.distance place = distance ∧
    0.0 < distance ∧ distance.isFinite = true ∧
    s.measures.difference (s.bearing place) s.angle = .ok off ∧ off ≤ Angle.searchTolerance

/-- A being is the first of those that match and are nearest, of some in a row. -/
structure First (s : Search) (row : List EntityId) (id : EntityId) (distance : Float) : Prop where
  fits : s.Matches id distance
  least : ∀ other ∈ row, ∀ distance', s.Matches other distance' → distance ≤ distance'
  first : ∃ before after, row = before ++ id :: after ∧
    ∀ other ∈ before, ∀ distance', s.Matches other distance' → distance < distance'

/-- What is kept of those that were looked at: none of them matches, or one is the first of the nearest. -/
inductive Keeps (s : Search) (seen : List EntityId) : Nearest → Prop
  | nothing (unmatched : ∀ id ∈ seen, ∀ distance, ¬ s.Matches id distance) : Keeps s seen {}
  | best {id : EntityId} {distance : Float} (first : s.First seen id distance) :
      Keeps s seen { found := some id, distance }

variable {s : Search} {seen : List EntityId} {nearest : Nearest} {id : EntityId} {distance : Float}

theorem Matches.distance_eq {place : Float × Float} (fits : s.Matches id distance)
    (stands : s.arena.position id = .ok place) : s.distance place = distance := by
  obtain ⟨place', -, stands', same, -⟩ := fits
  rwa [Except.ok.inj (stands.symm.trans stands')]

theorem Matches.unique {distance' : Float} (fits : s.Matches id distance) (fits' : s.Matches id distance') :
    distance = distance' := by
  obtain ⟨place, -, stands, rfl, -⟩ := fits
  exact fits'.distance_eq stands

theorem Matches.positive (fits : s.Matches id distance) : 0.0 < distance := by
  obtain ⟨-, -, -, -, positive, -⟩ := fits
  exact positive

theorem Matches.lt_infinity (fits : s.Matches id distance) : distance < Number.infinity false := by
  obtain ⟨-, -, -, -, -, finite, -⟩ := fits
  exact Number.lt_of_infinity finite Number.unpack_infinity

/-- The distance that is kept is a number. -/
theorem Keeps.defined (keeps : s.Keeps seen nearest) : Defined nearest.distance := by
  cases keeps with
  | nothing => exact Number.defined_of_isNaN (by decide)
  | best first => exact (Number.lt_iff_rank.mp first.fits.positive).2.1

/-- A being that does not match, or is no nearer, changes nothing. -/
theorem Keeps.pass (keeps : s.Keeps seen nearest)
    (far : ∀ distance, s.Matches id distance → nearest.distance ≤ distance) : s.Keeps (seen ++ [id]) nearest := by
  cases keeps with
  | nothing unmatched =>
    refine .nothing fun other member distance fits => ?_
    obtain earlier | last := List.mem_append.mp member
    · exact unmatched other earlier distance fits
    · obtain rfl := List.mem_singleton.mp last
      exact Number.not_lt_of_le (far distance fits) fits.lt_infinity
  | best first =>
    obtain ⟨before, after, row, further⟩ := first.first
    refine .best ⟨first.fits, fun other member distance fits => ?_, before, after ++ [id], by simp [row], further⟩
    obtain earlier | last := List.mem_append.mp member
    · exact first.least other earlier distance fits
    · obtain rfl := List.mem_singleton.mp last
      exact far distance fits

/-- A being that matches and is nearer is kept: whatever matched before it is further away. -/
theorem Keeps.take (keeps : s.Keeps seen nearest) (fits : s.Matches id distance)
    (nearer : distance < nearest.distance) : s.Keeps (seen ++ [id]) { found := some id, distance } := by
  have further : ∀ other ∈ seen, ∀ distance', s.Matches other distance' → distance < distance' := by
    intro other member distance' fits'
    cases keeps with
    | nothing unmatched => exact absurd fits' (unmatched other member distance')
    | best first => exact Number.lt_of_lt_of_le nearer (first.least other member distance' fits')
  refine .best ⟨fits, fun other member distance' fits' => ?_, seen, [], rfl, further⟩
  obtain earlier | last := List.mem_append.mp member
  · exact Number.le_of_lt (further other earlier distance' fits')
  · obtain rfl := List.mem_singleton.mp last
    rw [fits'.unique fits]
    exact Number.le_refl (Number.lt_iff_rank.mp nearer).1

theorem lookBy_eq {place : Float × Float} (stands : s.arena.position id = .ok place) :
    s.arena.lookBy s.measures s.origin.1 s.origin.2 s.angle nearest id =
      if s.distance place ≤ 0.0 || s.distance place ≥ nearest.distance then .ok nearest
      else do
        let off ← s.measures.difference (s.bearing place) s.angle
        if off ≤ Angle.searchTolerance then return { found := some id, distance := s.distance place }
        else return nearest := by
  unfold lookBy
  rw [stands]
  rfl

/-- A look at one more being keeps the first of the nearest matches. -/
theorem Keeps.look (keeps : s.Keeps seen nearest) (lawful : s.measures.Lawful) (finite : s.angle.isFinite = true)
    {place : Float × Float} (stands : s.arena.position id = .ok place) (number : (s.distance place).isNaN = false) :
    ∃ next, s.arena.lookBy s.measures s.origin.1 s.origin.2 s.angle nearest id = .ok next ∧
      s.Keeps (seen ++ [id]) next := by
  have defined : Defined (s.distance place) := Number.defined_of_isNaN number
  rw [lookBy_eq stands]
  split
  · next skipped =>
    refine ⟨nearest, rfl, keeps.pass fun distance fits => ?_⟩
    rw [← fits.distance_eq stands]
    obtain here | far := Bool.or_eq_true_iff.mp skipped
    · have positive := fits.positive
      rw [← fits.distance_eq stands] at positive
      exact absurd positive (Number.not_lt_of_le (of_decide_eq_true here))
    · exact of_decide_eq_true far
  · next tested =>
    rw [Bool.or_eq_true_iff, decide_eq_true_iff, decide_eq_true_iff, not_or] at tested
    have positive : 0.0 < s.distance place :=
      Number.lt_of_not_le defined (Number.defined_of_isNaN (by decide)) tested.1
    have nearer : s.distance place < nearest.distance := Number.lt_of_not_le keeps.defined defined tested.2
    have ends : (s.distance place).isFinite = true := Number.isFinite_of_lt_of_lt positive nearer
    obtain ⟨off, compared⟩ : ∃ off, s.measures.difference (s.bearing place) s.angle = .ok off :=
      lawful.exists_difference (lawful.bearing_finite ends) finite
    rw [compared]
    by_cases close : off ≤ Angle.searchTolerance
    · exact ⟨_, if_pos close, keeps.take ⟨place, off, stands, rfl, positive, ends, compared, close⟩ nearer⟩
    · refine ⟨nearest, if_neg close, keeps.pass fun distance fits => absurd ?_ close⟩
      obtain ⟨place', off', stands', -, -, -, compared', close'⟩ := fits
      rw [← Except.ok.inj (stands.symm.trans stands'), compared] at compared'
      rwa [Except.ok.inj compared']

/-- A pass over a row of beings keeps the first of the nearest matches. -/
theorem Keeps.foldlM (keeps : s.Keeps seen nearest) (lawful : s.measures.Lawful) (finite : s.angle.isFinite = true)
    {row : List EntityId}
    (placed : ∀ id ∈ row, ∃ place, s.arena.position id = .ok place ∧ (s.distance place).isNaN = false) :
    ∃ last, row.foldlM (s.arena.lookBy s.measures s.origin.1 s.origin.2 s.angle) nearest = .ok last ∧
      s.Keeps (seen ++ row) last := by
  induction row generalizing seen nearest with
  | nil => exact ⟨nearest, rfl, by simpa using keeps⟩
  | cons id row ih =>
    obtain ⟨place, stands, number⟩ := placed id List.mem_cons_self
    obtain ⟨next, looked, kept⟩ := keeps.look lawful finite stands number
    obtain ⟨last, passed, kept⟩ := ih kept fun other member => placed other (List.mem_cons_of_mem _ member)
    refine ⟨last, ?_, by simpa using kept⟩
    rw [List.foldlM_cons, looked]
    exact passed

/-- A search among beings with a place, none of them at a distance that is no number, finds nothing exactly if none
matches; otherwise it finds one that matches, that is nearest of all that match, and that was added first of those at
this distance. -/
theorem finds_first_nearest (s : Search) (lawful : s.measures.Lawful) (finite : s.angle.isFinite = true)
    (sandbox : s.arena.isBare = false)
    (placed : ∀ id ∈ s.arena.members,
      ∃ place, s.arena.position id = .ok place ∧ (s.distance place).isNaN = false) :
    ∃ found, s.arena.searchBy s.measures s.origin s.angle = .ok found ∧
      (found = none ↔ ∀ id ∈ s.arena.members, ∀ distance, ¬ s.Matches id distance) ∧
      ∀ id, found = some id → ∃ distance, s.First s.arena.members id distance := by
  have start : s.Keeps [] {} := .nothing fun _ member => by cases member
  obtain ⟨last, passed, kept⟩ := start.foldlM lawful finite placed
  refine ⟨last.found, ?_, ?_⟩
  · unfold searchBy
    rw [sandbox, passed]
    rfl
  · rw [List.nil_append] at kept
    cases kept with
    | nothing unmatched => exact ⟨⟨fun _ => unmatched, fun _ => rfl⟩, nofun⟩
    | @best id distance first =>
      obtain ⟨before, after, row, -⟩ := first.first
      refine ⟨⟨nofun, fun unmatched => absurd first.fits (unmatched id (by simp [row]) distance)⟩, ?_⟩
      rintro id' same
      cases same
      exact ⟨distance, first⟩

end Search

end Arena

namespace Row

/-- Directions along a line, ahead and behind; a vector of finite length is taken to be on the line. -/
def alongLine : Measures where
  distance := Number.distance
  bearing _ dx := if dx < 0.0 then 3.141592653589793 else 0.0
  difference := Angle.difference

def foodAt (x : Float) : Being := .food { x, y := 0.0, radius := 1.0 }

/-- Food on a line: at the point of the search, behind it, ahead of it, twice at one place that is nearer, and
infinitely far away. -/
def search : Arena.Search where
  measures := alongLine
  arena :=
    { beings := #[foodAt 0.0, foodAt (-1.0), foodAt 3.0, foodAt 2.0, foodAt 2.0, foodAt (Number.infinity false)],
      members := [⟨0⟩, ⟨1⟩, ⟨2⟩, ⟨3⟩, ⟨4⟩, ⟨5⟩] }
  origin := (0.0, 0.0)
  angle := 0.0

theorem lawful : alongLine.Lawful :=
  Measures.lawful_of_bearing fun dx _ _ => by
    show (if dx < 0.0 then (3.141592653589793 : Float) else 0.0).isFinite = true
    split <;> decide

theorem placed : ∀ id ∈ search.arena.members,
    ∃ place, search.arena.position id = .ok place ∧ (search.distance place).isNaN = false := by
  rw [show search.arena.members = [⟨0⟩, ⟨1⟩, ⟨2⟩, ⟨3⟩, ⟨4⟩, ⟨5⟩] from rfl]
  simp only [List.forall_mem_cons]
  exact ⟨⟨_, rfl, by decide +kernel⟩, ⟨_, rfl, by decide +kernel⟩, ⟨_, rfl, by decide +kernel⟩,
    ⟨_, rfl, by decide +kernel⟩, ⟨_, rfl, by decide +kernel⟩, ⟨_, rfl, by decide +kernel⟩, nofun⟩

theorem third_is_found :
    (search.arena.searchBy search.measures search.origin search.angle).toOption = some (some ⟨3⟩) := by
  decide +kernel

end Row

theorem row_search_first : Row.search.measures.Lawful ∧ Row.search.angle.isFinite = true ∧
    Row.search.arena.isBare = false ∧
    (∀ id ∈ Row.search.arena.members,
      ∃ place, Row.search.arena.position id = .ok place ∧ (Row.search.distance place).isNaN = false) ∧
    Row.search.arena.searchBy Row.search.measures Row.search.origin Row.search.angle = .ok (some ⟨3⟩) ∧
    ∃ distance, Row.search.First Row.search.arena.members ⟨3⟩ distance := by
  obtain ⟨found, searched, -, first⟩ :=
    Arena.Search.finds_first_nearest Row.search Row.lawful (by decide) rfl Row.placed
  have third := Row.third_is_found
  rw [searched] at third
  obtain rfl : found = some ⟨3⟩ := Option.some.inj third
  exact ⟨Row.lawful, by decide, rfl, Row.placed, searched, first ⟨3⟩ rfl⟩

end WormLang
