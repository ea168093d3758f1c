import Facets.Plan
import Facets.Proofs.Ascending

namespace Facets

namespace Visit

theorem lt_iff {a b : Visit} : a < b ↔ a.row < b.row ∨ a.row = b.row ∧ a.position < b.position :=
  Iff.rfl

theorem eq_iff {a b : Visit} : a = b ↔ a.row = b.row ∧ a.position = b.position := by
  cases a
  cases b
  simp only [mk.injEq]

instance : IsStrictTotalOrder Visit (· < ·) where
  irrefl a := by grind [lt_iff]
  trans a b c := by grind [lt_iff]
  trichotomous a b := by grind [lt_iff, eq_iff]

theorem row_le_of_lt {a b : Visit} (less : a < b) : a.row ≤ b.row := by
  rcases lt_iff.mp less with lower | ⟨same, _⟩
  · exact Nat.le_of_lt lower
  · exact Nat.le_of_eq same

end Visit

theorem Hits.zipIdx_pairwise (hits : Hits) :
    hits.zipIdx.Pairwise fun a b => a.2 < b.2 := by
  rw [← List.pairwise_map, List.zipIdx_map_snd]
  exact List.pairwise_lt_range'

theorem Hits.map_zipIdx {α : Type} (hits : Hits) (f : Hit → α) :
    (hits.zipIdx.map fun place => f place.1) = hits.map f := by
  conv_rhs => rw [← List.zipIdx_map_fst 0 hits, List.map_map]
  rfl

theorem Hits.flatMap_zipIdx {α : Type} (hits : Hits) (f : Hit → List α) :
    (hits.zipIdx.flatMap fun place => f place.1) = hits.flatMap f := by
  conv_rhs => rw [← List.zipIdx_map_fst 0 hits, List.flatMap_map]

theorem Hits.filter_zipIdx (hits : Hits) (chosen : Hit → Bool) :
    (hits.zipIdx.filter fun place => chosen place.1).map (·.1) = hits.filter chosen := by
  conv_rhs => rw [← List.zipIdx_map_fst 0 hits, List.filter_map]
  rfl

namespace Place

def row? : Place → Option RowId
  | .row r => some r
  | _ => none

def group? : Place → Option Ordinal
  | .group g => some g
  | _ => none

theorem row?_ofItem (rowOf : Item → Option RowId) (expanding : Bool) (item : Item) :
    (ofItem rowOf expanding item).row? =
      if expanding && item.group.isSome then none else rowOf item := by
  unfold ofItem
  cases expanding <;> cases item.group <;> cases rowOf item <;> rfl

theorem group?_ofItem (rowOf : Item → Option RowId) (expanding : Bool) (item : Item) :
    (ofItem rowOf expanding item).group? = if expanding then item.group else none := by
  unfold ofItem
  cases expanding <;> cases item.group <;> cases rowOf item <;> rfl

end Place

namespace Plan

/-- The visits of a result set in input order. -/
def inputVisits (rowOf : Item → Option RowId) (expanding : Bool) (hits : Hits) : List Visit :=
  hits.zipIdx.filterMap fun (hit, position) =>
    ((Place.ofItem rowOf expanding hit.item).row?).map (⟨·, position⟩)

theorem visits_make (rowOf : Item → Option RowId) (expanding : Bool) (hits : Hits) :
    (make rowOf expanding hits).visits = Ascending.ofList (inputVisits rowOf expanding hits) := by
  simp only [make, ofPlaces, inputVisits, List.filterMap_map, Function.comp_def]
  congr 1
  apply List.filterMap_congr
  intro (hit, position) _
  cases Place.ofItem rowOf expanding hit.item <;> rfl

theorem groups_make (rowOf : Item → Option RowId) (expanding : Bool) (hits : Hits) :
    (make rowOf expanding hits).groups = hits.zipIdx.filterMap fun (hit, position) =>
      ((Place.ofItem rowOf expanding hit.item).group?).map (position, ·) := by
  simp only [make, ofPlaces, List.filterMap_map, Function.comp_def]
  apply List.filterMap_congr
  intro (hit, position) _
  cases Place.ofItem rowOf expanding hit.item <;> rfl

theorem inputVisits_nodup (rowOf : Item → Option RowId) (expanding : Bool) (hits : Hits) :
    (inputVisits rowOf expanding hits).Nodup := by
  refine List.Pairwise.filterMap _ ?_ hits.zipIdx_pairwise
  rintro ⟨hit, position⟩ ⟨other, later⟩ before visit atVisit next atNext rfl
  simp only [Option.map_eq_some_iff] at atVisit atNext
  obtain ⟨_, _, rfl⟩ := atVisit
  obtain ⟨_, _, same⟩ := atNext
  have positions := (Visit.eq_iff.mp same).2
  simp only at positions before
  omega

theorem visits_pairwise (rowOf : Item → Option RowId) (expanding : Bool) (hits : Hits) :
    (make rowOf expanding hits).visits.Pairwise (· < ·) := by
  rw [visits_make]
  exact Ascending.ofList_pairwise _

/-- Sorting the visits neither loses nor repeats one. -/
theorem visits_perm (rowOf : Item → Option RowId) (expanding : Bool) (hits : Hits) :
    (make rowOf expanding hits).visits.Perm (inputVisits rowOf expanding hits) := by
  rw [visits_make]
  exact Ascending.ofList_perm (inputVisits_nodup rowOf expanding hits)

/-- Every position is set aside for its group, visited or left over, and none of them twice. -/
theorem positions_perm (rowOf : Item → Option RowId) (expanding : Bool) (hits : Hits) :
    ((make rowOf expanding hits).groups.map (·.1) ++
      (make rowOf expanding hits).visits.map (·.position) ++
        (make rowOf expanding hits).unknown).Perm (List.range hits.length) := by
  have visits := (visits_perm rowOf expanding hits).map (·.position)
  refine ((visits.append_left _).append_right _).trans ?_
  rw [groups_make, inputVisits, List.range_eq_range', ← List.zipIdx_map_snd 0 hits]
  simp only [make, ofPlaces, List.filterMap_map, List.map_filterMap]
  induction hits.zipIdx with
  | nil => exact .nil
  | cons place rest ih =>
    obtain ⟨hit, position⟩ := place
    simp only [List.filterMap_cons, Function.comp_apply, List.map_cons] at ih ⊢
    cases Place.ofItem rowOf expanding hit.item with
    | group group => simpa [Place.group?, Place.row?] using ih
    | row row =>
      simp only [Place.group?, Place.row?, Option.map_none, Option.map_some, List.append_assoc,
        List.cons_append] at ih ⊢
      exact List.perm_middle.trans (ih.cons position)
    | nowhere =>
      simp only [Place.group?, Place.row?, Option.map_none]
      exact List.perm_middle.trans (ih.cons position)

section Members

variable {rowOf : Item → Option RowId} {expanding : Bool} {hits : Hits}

theorem mem_groups {position : Nat} {group : Ordinal} :
    (position, group) ∈ (make rowOf expanding hits).groups ↔
      ∃ hit, hits[position]? = some hit ∧ expanding = true ∧ hit.item.group = some group := by
  rw [groups_make]
  simp only [List.mem_filterMap, Prod.exists, List.mem_zipIdx_iff_getElem?, Place.group?_ofItem,
    Option.map_eq_some_iff, Prod.mk.injEq]
  constructor
  · rintro ⟨hit, _, here, _, grouped, rfl, rfl⟩
    cases expanding with
    | true => exact ⟨hit, here, rfl, grouped⟩
    | false => cases grouped
  · rintro ⟨hit, here, rfl, grouped⟩
    exact ⟨hit, position, here, group, grouped, rfl, rfl⟩

theorem mem_visits {visit : Visit} : visit ∈ (make rowOf expanding hits).visits ↔
    ∃ hit, hits[visit.position]? = some hit ∧ (expanding = true → hit.item.group = none) ∧
      rowOf hit.item = some visit.row := by
  rw [(visits_perm rowOf expanding hits).mem_iff, inputVisits]
  simp only [List.mem_filterMap, Prod.exists, List.mem_zipIdx_iff_getElem?, Place.row?_ofItem,
    Option.map_eq_some_iff]
  constructor
  · rintro ⟨hit, _, here, row, atRow, rfl⟩
    split at atRow
    · cases atRow
    · rename_i apart
      refine ⟨hit, here, fun expanding => ?_, atRow⟩
      rw [expanding, Bool.true_and] at apart
      exact Option.not_isSome_iff_eq_none.mp apart
  · rintro ⟨hit, here, apart, atRow⟩
    refine ⟨hit, visit.position, here, visit.row, ?_, rfl⟩
    cases expanding with
    | true => simpa only [apart rfl, Option.isSome_none, Bool.and_false, Bool.false_eq_true, if_false]
    | false => exact atRow

theorem mem_unknown {position : Nat} : position ∈ (make rowOf expanding hits).unknown ↔
    ∃ hit, hits[position]? = some hit ∧ (expanding = true → hit.item.group = none) ∧
      rowOf hit.item = none := by
  have nowhere : ∀ item, Place.ofItem rowOf expanding item = .nowhere ↔
      (expanding = true → item.group = none) ∧ rowOf item = none := by
    intro item
    unfold Place.ofItem
    cases expanding <;> cases item.group <;> cases rowOf item <;> simp
  simp only [make, ofPlaces, List.filterMap_map, List.mem_filterMap, Prod.exists,
    List.mem_zipIdx_iff_getElem?, Function.comp_apply, ← nowhere]
  constructor
  · rintro ⟨hit, _, here, left⟩
    split at left
    · rename_i same
      cases left
      obtain ⟨lost, rfl⟩ := Prod.mk.inj same
      exact ⟨hit, here, lost⟩
    · cases left
  · rintro ⟨hit, here, lost⟩
    exact ⟨hit, position, here, by simp only [lost]⟩

end Members

/-- The rows of a plan never go back. -/
theorem rows_pairwise (rowOf : Item → Option RowId) (expanding : Bool) (hits : Hits) :
    (make rowOf expanding hits).rows.Pairwise (· ≤ ·) :=
  List.pairwise_map.mpr ((visits_pairwise rowOf expanding hits).imp Visit.row_le_of_lt)

/-- The rows that have been read when a visit is made, latest first. -/
def before (plan : Plan) (visit : Visit) : List RowId :=
  ((plan.visits.filter (· < visit)).map (·.row)).reverse

theorem row_le_of_mem_before {plan : Plan} {visit : Visit} {row : RowId}
    (member : row ∈ plan.before visit) : row ≤ visit.row := by
  simp only [before, List.mem_reverse, List.mem_map, List.mem_filter, decide_eq_true_eq] at member
  obtain ⟨earlier, ⟨_, less⟩, rfl⟩ := member
  exact Visit.row_le_of_lt less

/-- The visits below one of them are those in front of it. -/
theorem filter_lt_visit {visits : List Visit} (ascending : visits.Pairwise (· < ·)) {place : Nat}
    {visit : Visit} (here : visits[place]? = some visit) :
    visits.filter (· < visit) = visits.take place := by
  induction visits generalizing place with
  | nil => simp at here
  | cons first rest ih =>
    obtain ⟨least, tail⟩ := List.pairwise_cons.mp ascending
    cases place with
    | zero =>
      simp only [List.getElem?_cons_zero, Option.some.injEq] at here
      subst here
      have self : ¬ first < first := irrefl first
      rw [List.take_zero, List.filter_eq_nil_iff]
      intro other member
      rw [decide_eq_true_eq]
      rcases List.mem_cons.mp member with rfl | later
      · exact self
      · exact asymm (least other later)
    | succ place =>
      rw [List.getElem?_cons_succ] at here
      have below : first < visit := least visit (List.mem_of_getElem? here)
      simp only [List.filter_cons, below, decide_true, if_true, ih tail here, List.take_succ_cons]

/-- The rows read before a visit are those of the visits in front of it. -/
theorem before_eq_take {plan : Plan} (ascending : plan.visits.Pairwise (· < ·)) {place : Nat}
    {visit : Visit} (here : plan.visits[place]? = some visit) :
    plan.before visit = (plan.rows.take place).reverse := by
  rw [before, filter_lt_visit ascending here, rows, List.map_take]

/-- A plan that gives every position of a result set one place, and whose rows never go back. -/
structure Covers (plan : Plan) (rowOf : Item → Option RowId) (expanding : Bool) (hits : Hits) :
    Prop where
  once : (plan.groups.map (·.1) ++ plan.visits.map (·.position) ++ plan.unknown).Perm
    (List.range hits.length)
  groups : ∀ position group, (position, group) ∈ plan.groups ↔
    ∃ hit, hits[position]? = some hit ∧ expanding = true ∧ hit.item.group = some group
  visits : ∀ visit, visit ∈ plan.visits ↔
    ∃ hit, hits[visit.position]? = some hit ∧ (expanding = true → hit.item.group = none) ∧
      rowOf hit.item = some visit.row
  unknown : ∀ position, position ∈ plan.unknown ↔
    ∃ hit, hits[position]? = some hit ∧ (expanding = true → hit.item.group = none) ∧
      rowOf hit.item = none
  forward : plan.rows.Pairwise (· ≤ ·)
  earlier : ∀ place visit, plan.visits[place]? = some visit →
    plan.before visit = (plan.rows.take place).reverse

theorem make_covers (rowOf : Item → Option RowId) (expanding : Bool) (hits : Hits) :
    (make rowOf expanding hits).Covers rowOf expanding hits where
  once := positions_perm rowOf expanding hits
  groups _ _ := mem_groups
  visits _ := mem_visits
  unknown _ := mem_unknown
  forward := rows_pairwise rowOf expanding hits
  earlier _ _ := before_eq_take (visits_pairwise rowOf expanding hits)

end Plan

/-- A cursor that follows ascending visits has read, at each of them, the rows of those before. -/
theorem Cursor.readFrom_visits {ρ : Type} (cursor : Cursor ρ) (history : List RowId)
    {visits : List Visit} (ascending : visits.Pairwise (· < ·)) :
    cursor.readFrom history (visits.map (·.row)) = visits.map fun visit =>
      cursor (((visits.filter (· < visit)).map (·.row)).reverse ++ history) visit.row := by
  induction visits generalizing history with
  | nil => rfl
  | cons first rest ih =>
    obtain ⟨least, tail⟩ := List.pairwise_cons.mp ascending
    have none : rest.filter (· < first) = [] := by
      refine List.filter_eq_nil_iff.mpr fun visit member => ?_
      simpa using asymm (least visit member)
    have self : ¬ first < first := irrefl first
    simp only [List.map_cons, readFrom, List.filter_cons, self, none, ih _ tail]
    simp only [decide_false, Bool.false_eq_true, if_false, List.map_nil, List.reverse_nil,
      List.nil_append, List.cons.injEq, true_and]
    refine List.map_congr_left fun visit member => ?_
    simp only [least visit member, decide_true, if_true, List.map_cons, List.reverse_cons,
      List.append_assoc, List.cons_append, List.nil_append]

end Facets
