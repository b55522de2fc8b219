import WormLang.Proofs.Soundness.Sandbox

/-!
What is done to one being of a world leaves every other being alone, with all that hosts gave it.
-/
namespace WormLang

namespace Arena

/-- A being is as it was, and so is everything that hosts gave it. -/
structure Spares (me : EntityId) (a a' : Arena) : Prop where
  being : a'.beings[me.index]? = a.beings[me.index]?
  extras : ∀ field, a'.extra? me field = a.extra? me field

namespace Spares

variable {me id : EntityId} {a a' a'' : Arena} {field : String} {d : Datum}

theorem refl (me : EntityId) (a : Arena) : a.Spares me a := ⟨rfl, fun _ => rfl⟩

theorem trans (first : a.Spares me a') (second : a'.Spares me a'') : a.Spares me a'' :=
  ⟨second.being.trans first.being, fun field => (second.extras field).trans (first.extras field)⟩

theorem loose? (spares : a.Spares me a') (field : String) : a'.loose? me field = a.loose? me field := by
  unfold Arena.loose? Arena.being
  simp only [Array.getD_eq_getD_getElem?, spares.being, spares.extras]

theorem tight (spares : a.Spares me a') (tight : a.Tight me) : a'.Tight me :=
  fun field => (spares.loose? field).trans (tight field)

theorem members (a : Arena) (members : List EntityId) : a.Spares me { a with members } := ⟨rfl, fun _ => rfl⟩

section

variable (other : id ≠ me)

include other

theorem setBeing (a : Arena) (b : Being) : a.Spares me (a.setBeing id b) := by
  have elsewhere : id.index ≠ me.index := fun same => other (by cases id; cases me; cases same; rfl)
  refine ⟨?_, fun _ => rfl⟩
  simp [Arena.setBeing, elsewhere]

theorem setExtra (a : Arena) (field : String) (d : Datum) : a.Spares me (a.setExtra id field d) := by
  refine ⟨rfl, fun field' => ?_⟩
  have elsewhere : ((me, field') == (id, field)) = false := by simpa using fun same _ => other same.symm
  simp [Arena.extra?, Arena.setExtra, List.lookup, elsewhere]

theorem dropExtra (a : Arena) (field : String) : a.Spares me (a.dropExtra id field) := by
  refine ⟨rfl, fun field' => ?_⟩
  unfold Arena.extra? Arena.dropExtra
  dsimp only
  induction a.extras with
  | nil => rfl
  | cons entry rest ih =>
    obtain ⟨key, d⟩ := entry
    by_cases dropped : key = (id, field)
    · subst dropped
      have elsewhere : ((me, field') == (id, field)) = false := by simpa using fun same _ => other same.symm
      rw [List.filter_cons_of_neg (by simp), ih, List.lookup_cons, elsewhere]
    · rw [List.filter_cons_of_pos (by simpa using dropped), List.lookup_cons, List.lookup_cons, ih]

theorem setKept (a : Arena) (field : String) (b : Being) : a.Spares me (a.setKept id field b) :=
  (dropExtra other a _).trans (setBeing other _ b)

theorem keep (a : Arena) (field : String) (d : Datum) : a.Spares me (a.keep id field d) := by
  unfold Arena.keep
  split
  · exact setKept other a _ _
  · exact setExtra other a _ d

theorem setPoints {w : Worm} {points : Float} (set : a.setPoints id w points = .ok a') : a.Spares me a' := by
  unfold Arena.setPoints at set
  split at set
  · cases set
  · cases set
    exact setKept other a _ _

theorem write (written : a.write id field d = .ok a') : a.Spares me a' := by
  unfold Arena.write at written
  dsimp only at written
  split at written
  · obtain ⟨place, -, same⟩ := bind_eq_ok.mp written
    cases same
    exact setKept other a _ _
  · obtain ⟨place, -, same⟩ := bind_eq_ok.mp written
    cases same
    exact setKept other a _ _
  · obtain ⟨quantity, -, written⟩ := bind_eq_ok.mp written
    obtain ⟨angle, -, written⟩ := bind_eq_ok.mp written
    obtain ⟨w', -, same⟩ := bind_eq_ok.mp written
    cases same
    exact setKept other a _ _
  · obtain ⟨points, -, set⟩ := bind_eq_ok.mp written
    exact setPoints other set
  · split at written
    · cases written
    · split at written
      · cases written
        exact keep other a _ d
      · cases written
        exact setExtra other a _ d

theorem startTurn (started : a.startTurn id = .ok a') : a.Spares me a' := by
  obtain ⟨w, -, started⟩ := bind_eq_ok.mp started
  split at started
  · cases started
    exact keep other a _ _
  · cases started
    exact setKept other a _ _

end

end Spares

end Arena

namespace Sandbox

variable {me id : EntityId} {a a' : Arena}

section

variable (other : id ≠ me)

include other

theorem spares_withPoints {points : Float} (set : withPoints a id points = .ok a') : a.Spares me a' := by
  unfold withPoints at set
  split at set
  · exact .setPoints other set
  · cases set
    exact .setExtra other a _ _

theorem spares_looseEffect {deed : Deed} (done : looseEffect a id deed = .ok a') : a.Spares me a' := by
  cases deed with
  | turn angle =>
    obtain ⟨d, -, done⟩ := bind_eq_ok.mp done
    obtain ⟨direction, -, written⟩ := bind_eq_ok.mp done
    exact .write other written
  | move =>
    obtain ⟨position, -, done⟩ := bind_eq_ok.mp done
    obtain ⟨place, -, done⟩ := bind_eq_ok.mp done
    obtain ⟨radius, -, done⟩ := bind_eq_ok.mp done
    obtain ⟨d, -, done⟩ := bind_eq_ok.mp done
    obtain ⟨quantity, -, done⟩ := bind_eq_ok.mp done
    obtain ⟨direction, -, done⟩ := bind_eq_ok.mp done
    split at done
    · cases done
    · obtain ⟨step, -, written⟩ := bind_eq_ok.mp done
      exact .write other written
  | jump | toggleWeapon | fire =>
    cases done
    exact .refl me a

theorem spares_takeEffect {deed : Deed} (done : takeEffect a id deed = .ok a') : a.Spares me a' := by
  unfold takeEffect at done
  split at done
  · split at done
    · exact spares_looseEffect other done
    · obtain ⟨w', -, same⟩ := bind_eq_ok.mp done
      cases same
      exact .setBeing other a _
  · exact spares_looseEffect other done
  · cases done
    exact .refl me a

end

theorem spares_pay {r r' : Records} {cost : Float} {record : Record} {paid : Bool} (other : record.entity ≠ me)
    (pays : pay a r cost record = .ok (paid, a', r')) : a.Spares me a' := by
  obtain ⟨points, -, pays⟩ := bind_eq_ok.mp pays
  split at pays
  · cases pays
    exact .refl me a
  · obtain ⟨after, set, same⟩ := bind_eq_ok.mp pays
    cases same
    exact spares_withPoints other set

/-- A deed of one being leaves every other being alone. -/
theorem spares_perform (r : Records) {record : Record} (other : record.entity ≠ me) :
    a.Spares me (perform a r record).2.1 := by
  unfold perform
  split
  · exact .refl me a
  · split
    · exact .refl me a
    · split
      · exact .refl me a
      · next pays => exact spares_pay other pays
      · next pays =>
        have before := spares_pay other pays
        split
        · next done => exact before.trans (spares_takeEffect other done)
        · exact before

end Sandbox

end WormLang
