import Facets.Facet.Narrow
import Facets.Proofs.Facet.Ranking

/-!
Passes with tables. A pass counts in a table with one entry for each bucket, takes down the least and the
greatest value of each bucket in another, looks up the ranges of a linear scale in a third and hits by their
positions. Here every such step fails outside of its table, and none does: the buckets of a pass lie in
its bucket space. What the tables end up with is what the buckets say.
-/

namespace Facets

/-- Where every element has a result, all results are there. -/
theorem mapM_eq_some_filterMap {α β : Type} {f : α → Option β} {xs : List α}
    (all : ∀ a ∈ xs, (f a).isSome) : xs.mapM f = some (xs.filterMap f) := by
  induction xs with
  | nil => rfl
  | cons a rest ih =>
    obtain ⟨b, value⟩ := Option.isSome_iff_exists.mp (all a List.mem_cons_self)
    rw [List.mapM_cons, ih fun c member => all c (List.mem_cons_of_mem a member),
      List.filterMap_cons_some value, value]
    rfl

theorem mapM_eq_some_map {α β : Type} {f : α → Option β} {g : α → β} {xs : List α}
    (all : ∀ a ∈ xs, f a = some (g a)) : xs.mapM f = some (xs.map g) := by
  rw [mapM_eq_some_filterMap fun a member => by rw [all a member, Option.isSome_some],
    ← List.filterMap_eq_map, List.filterMap_congr all]
  rfl

namespace Table

variable {α β : Type} {change : β → α → α} {table : List α} {things : List (ℕ × β)}

/-- Changes the entry at a place, which has to be in the table. -/
def change? (change : α → α) (table : List α) (place : ℕ) : Option (List α) :=
  (table[place]?).map fun entry => table.set place (change entry)

/-- Takes down things one after another, each at its place. -/
def fill? (change : β → α → α) (table : List α) (things : List (ℕ × β)) : Option (List α) :=
  things.foldlM (fun table thing => change? (change thing.2) table thing.1) table

/-- What becomes of an entry after all things at its place. -/
def entryAfter (change : β → α → α) (things : List (ℕ × β)) (place : ℕ) (entry : α) : α :=
  (things.filter (·.1 = place)).foldl (fun entry thing => change thing.2 entry) entry

theorem change?_eq {f : α → α} {place : ℕ} (inside : place < table.length) :
    change? f table place =
      some (table.mapIdx fun other entry => if place = other then f entry else entry) := by
  rw [change?, List.getElem?_eq_getElem inside, Option.map_some, Option.some.injEq]
  refine List.ext_getElem (by simp) fun other _ within => ?_
  rw [List.getElem_set, List.getElem_mapIdx]
  split
  · rename_i same
    simp only [same]
  · rfl

/-- Inside of the table nothing fails, and every entry has seen the things at its place. -/
theorem fill?_eq (inside : ∀ thing ∈ things, thing.1 < table.length) :
    fill? change table things = some (table.mapIdx (entryAfter change things)) := by
  induction things generalizing table with
  | nil =>
    exact congrArg some (List.ext_getElem (by simp) fun place _ within => by simp [entryAfter])
  | cons thing rest ih =>
    rw [fill?, List.foldlM_cons, change?_eq (inside thing List.mem_cons_self)]
    refine (ih fun other later => ?_).trans (congrArg some ?_)
    · rw [List.length_mapIdx]
      exact inside other (List.mem_cons_of_mem thing later)
    · refine List.ext_getElem (by simp) fun place _ within => ?_
      simp only [List.getElem_mapIdx, entryAfter, List.filter_cons, decide_eq_true_eq]
      split <;> rfl

theorem fill?_blank {size : ℕ} (blank : α) (inside : ∀ thing ∈ things, thing.1 < size) :
    fill? change (List.replicate size blank) things =
      some ((List.range size).map fun place => entryAfter change things place blank) := by
  rw [fill?_eq (by simpa using inside), Option.some.injEq]
  exact List.ext_getElem (by simp) fun place _ within => by simp

end Table

namespace Buckets

variable {buckets : Buckets} {size : ℕ}

/-- Buckets of a pass whose bucket space has some size. -/
def Within (buckets : Buckets) (size : ℕ) : Prop :=
  ∀ document ∈ buckets, ∀ ordinal ∈ document.2, ordinal < size

/-- The documents of each bucket, counted in a table. -/
def countIn? (buckets : Buckets) (size : ℕ) : Option (List ℕ) :=
  Table.fill? (fun _ count => count + 1) (List.replicate size 0)
    (buckets.flatMap fun document => document.2.map fun ordinal => (ordinal, ()))

/-- The counted buckets from the entries of a table, with whatever describes them looked up. -/
def listed? (describe? : Ordinal → Option Descriptor) (entries : List (ℕ × Ordinal)) :
    Option (List Bucket) :=
  entries.mapM fun entry => (describe? entry.2).map fun descriptor =>
    ⟨entry.2, descriptor, entry.1⟩

/-- The histogram of a pass that counts in a table and lists the entries that are not zero. -/
def tallyIn? (buckets : Buckets) (size : ℕ) (describe? : Ordinal → Option Descriptor) :
    Option (List Bucket) :=
  (buckets.countIn? size).bind fun counts =>
    listed? describe? (counts.zipIdx.filter fun entry => 0 < entry.1)

theorem countP_places {ordinals : List Ordinal} (distinct : ordinals.Nodup) (ordinal : Ordinal) :
    (ordinals.map fun place => (place, ())).countP (·.1 = ordinal) =
      if ordinals.contains ordinal then 1 else 0 := by
  rw [List.countP_map]
  simp only [List.contains_iff_mem]
  exact distinct.count

/-- A document is counted once in each of its buckets. -/
theorem entryAfter_count (distinct : ∀ document ∈ buckets, document.2.Nodup) (ordinal : Ordinal) :
    Table.entryAfter (fun (_ : Unit) count => count + 1)
      (buckets.flatMap fun document => document.2.map fun ordinal => (ordinal, ())) ordinal 0 =
        buckets.count ordinal := by
  rw [Table.entryAfter, List.foldl_const Nat.succ, Nat.succ_iterate, Nat.zero_add,
    ← List.countP_eq_length_filter]
  induction buckets with
  | nil => rfl
  | cons document rest ih =>
    have others := ih fun other later => distinct other (List.mem_cons_of_mem document later)
    rw [List.flatMap_cons, List.countP_append, others,
      countP_places (distinct document List.mem_cons_self), count, count, List.countP_cons]
    exact Nat.add_comm _ _

theorem countIn?_eq (within : buckets.Within size)
    (distinct : ∀ document ∈ buckets, document.2.Nodup) :
    buckets.countIn? size = some ((List.range size).map buckets.count) := by
  rw [countIn?, Table.fill?_blank 0]
  · exact congrArg some (List.map_congr_left fun ordinal _ => entryAfter_count distinct ordinal)
  · simp only [List.mem_flatMap, List.mem_map]
    rintro _ ⟨document, member, ordinal, held, rfl⟩
    exact within document member ordinal held

/-- The occupied buckets are the entries of the table that are not zero. -/
theorem occupied_eq (within : buckets.Within size) :
    buckets.occupied = (List.range size).filter fun ordinal => 0 < buckets.count ordinal := by
  refine (Ascending.ofList_pairwise _).eq_of_mem_iff (List.pairwise_lt_range.filter _) fun ordinal => ?_
  rw [List.mem_filter, decide_eq_true_eq, ← mem_occupied, List.mem_range]
  refine (and_iff_right_of_imp fun occupied => ?_).symm
  obtain ⟨document, member, held⟩ := List.mem_flatMap.mp (Ascending.mem_ofList.mp occupied)
  exact within document member ordinal held

/-- Where all that is listed is described, the table lists the histogram. -/
theorem listed?_eq {describe : Ordinal → Option Descriptor} {ordinals : List Ordinal}
    (described : ∀ ordinal ∈ ordinals, (describe ordinal).isSome) :
    listed? describe (ordinals.map fun ordinal => (buckets.count ordinal, ordinal)) =
      some (ordinals.filterMap fun ordinal => (describe ordinal).map fun descriptor =>
        ⟨ordinal, descriptor, buckets.count ordinal⟩) := by
  rw [listed?, mapM_eq_some_filterMap, List.filterMap_map]
  · rfl
  · intro entry member
    obtain ⟨ordinal, listed, rfl⟩ := List.mem_map.mp member
    rw [Option.isSome_map]
    exact described ordinal listed

theorem zipIdx_map_range {α : Type} (f : ℕ → α) (n : ℕ) :
    ((List.range n).map f).zipIdx = (List.range n).map fun i => (f i, i) :=
  List.ext_getElem (by simp) fun i _ _ => by simp

/-- Counting in a table gives the histogram of the pass. -/
theorem tallyIn?_eq (within : buckets.Within size)
    (distinct : ∀ document ∈ buckets, document.2.Nodup) {describe : Ordinal → Option Descriptor}
    (described : ∀ ordinal ∈ buckets.occupied, (describe ordinal).isSome) :
    buckets.tallyIn? size describe = some (buckets.tally describe) := by
  rw [tallyIn?, countIn?_eq within distinct, Option.bind_some, zipIdx_map_range, List.filter_map]
  rw [occupied_eq within] at described
  rw [tally, occupied_eq within]
  exact listed?_eq described

theorem tally_congr {describe other : Ordinal → Option Descriptor}
    (same : ∀ ordinal ∈ buckets.occupied, describe ordinal = other ordinal) :
    buckets.tally describe = buckets.tally other :=
  List.filterMap_congr fun ordinal occupied => by rw [same ordinal occupied]

theorem nodup_ofScan {α : Type} (bucketOf? : α → Option Ordinal) (scan : Scan α) :
    ∀ document ∈ ofScan bucketOf? scan, document.2.Nodup := by
  intro document member
  obtain ⟨reading, _, rfl⟩ := List.mem_map.mp member
  exact Ascending.ofList_nodup _

end Buckets

theorem findM?_eq_some {α : Type} {look : α → Option Bool} {p : α → Bool} {xs : List α}
    (found : ∀ a ∈ xs, look a = some (p a)) : xs.findM? look = some (xs.find? p) := by
  induction xs with
  | nil => rfl
  | cons a rest ih =>
    have others := ih fun b later => found b (List.mem_cons_of_mem a later)
    rw [List.findM?, found a List.mem_cons_self, List.find?_cons]
    cases p a with
    | true => rfl
    | false => exact others

namespace LinearScale

/-- The first of a bucket and its neighbours whose range, looked up in a table, holds a whole number, or
the bucket itself. -/
def snapIn? (ranges : List WholeRange) (n : Int64) (ordinal : Ordinal) : Option Ordinal :=
  let first := ordinal - 1
  let last := min (ordinal + 1) 9
  ((List.range' first (last + 1 - first)).findM? fun candidate =>
    (ranges[candidate]?).map fun range => range.contains n).map fun held => held.getD ordinal

/-- The bucket of a number on a scale that keeps the ranges of its buckets in a table. -/
def bucketIn? (scale : LinearScale) (x : Float) : Option Ordinal :=
  match scale.ranges? with
  | some ranges =>
    if x.isFinite then snapIn? ranges (Number.toInt64 Number.truncate x) (scale.positionOf x)
    else some (scale.positionOf x)
  | none => some (scale.positionOf x)

/-- A bucket, its neighbours and no others are searched. -/
theorem find?_neighbours {ordinal : ℕ} (small : ordinal < 10) (p : ℕ → Bool) :
    (List.range' (ordinal - 1) (min (ordinal + 1) 9 + 1 - (ordinal - 1))).find? p =
      [ordinal - 1, ordinal, min (ordinal + 1) 9].find? p := by
  have inner : ∀ o < 10, o = 0 ∨ o = 9 ∨
      List.range' (o - 1) (min (o + 1) 9 + 1 - (o - 1)) = [o - 1, o, min (o + 1) 9] := by
    decide
  -- at either end the bucket itself stands for the neighbour that is missing
  rcases inner ordinal small with rfl | rfl | same
  · change [0, 1].find? p = [0, 0, 1].find? p
    simp only [List.find?_cons]
    cases p 0 <;> rfl
  · change [8, 9].find? p = [8, 9, 9].find? p
    simp only [List.find?_cons]
    cases p 9 <;> rfl
  · rw [same]

theorem snapIn?_eq (scale : LinearScale) (n : Int64) {ordinal : Ordinal} (small : ordinal < size) :
    snapIn? ((List.range size).map scale.rangeOf) n ordinal = some (scale.snap n ordinal) := by
  rw [snapIn?, findM?_eq_some (p := fun candidate => (scale.rangeOf candidate).contains n),
    find?_neighbours small]
  · rfl
  · intro candidate member
    have inside : candidate < size := by
      have within := (List.mem_range'_1.mp member).2
      simp only [Ordinal, size] at small within ⊢
      omega
    rw [List.getElem?_map, List.getElem?_range inside]
    rfl

/-- No number looks for a range that is not in the table. -/
theorem bucketIn?_eq (scale : LinearScale) (x : Float) :
    scale.bucketIn? x = some (scale.bucketOf x) := by
  unfold bucketIn? bucketOf ranges?
  by_cases integer : scale.kind = .integer
  · simp only [integer, if_true, true_and]
    split
    · exact scale.snapIn?_eq _ (scale.positionOf_lt x)
    · rfl
  · simp only [integer, if_false, false_and]

end LinearScale

/-- The least and the greatest value seen, after one more. -/
def widened (x : Float) (ends : Option (Float × Float)) : Option (Float × Float) :=
  match ends with
  | none => some (x, x)
  | some (low, high) => some (Number.lower low x, Number.higher high x)

theorem foldl_widened (xs : List Float) :
    xs.foldl (fun ends x => widened x ends) none = Number.extremes? xs := by
  have seen (xs : List Float) (low high : Float) :
      xs.foldl (fun ends x => widened x ends) (some (low, high)) =
        some (xs.foldl Number.lower low, xs.foldl Number.higher high) := by
    induction xs generalizing low high with
    | nil => rfl
    | cons x rest ih => exact ih _ _
  cases xs with
  | nil => rfl
  | cons x rest => exact seen rest x x

/-! A rule gives every number its bucket, or fails to find it; the size is that of the tables. -/

section Rule

variable (rule : Float → Option Ordinal) (size : ℕ) (scan : Scan Float)

/-- The buckets of the documents of a reading. -/
def Scan.bucketsIn? : Option Buckets :=
  scan.mapM fun document => (document.2.values.mapM rule).map fun ordinals =>
    (document.1, Ascending.ofList ordinals)

/-- The ends of the finite values of each bucket, taken down in a table. -/
def Scan.endsIn? : Option (List (Option (Float × Float))) :=
  (scan.values.mapM fun x => (rule x).map fun ordinal => (ordinal, x)).bind fun placed =>
    Table.fill? widened (List.replicate size none) (placed.filter (·.2.isFinite))

variable {rule} {size} {bucketOf : Float → Ordinal} (found : ∀ x, rule x = some (bucketOf x))

include found in
theorem Scan.bucketsIn?_eq :
    scan.bucketsIn? rule = some (Buckets.ofScan (fun x => some (bucketOf x)) scan) := by
  refine mapM_eq_some_map fun document _ => ?_
  rw [mapM_eq_some_filterMap fun x _ => by rw [found, Option.isSome_some], Option.map_some]
  simp only [found]

variable (small : ∀ x, bucketOf x < size)

include small

theorem Buckets.within_ofScan :
    (Buckets.ofScan (fun x => some (bucketOf x)) scan).Within size := by
  intro document member ordinal held
  obtain ⟨reading, _, rfl⟩ := List.mem_map.mp member
  obtain ⟨x, _, bucket⟩ := List.mem_filterMap.mp (Ascending.mem_ofList.mp held)
  exact Option.some.inj bucket ▸ small x

include found

theorem Scan.endsIn?_eq : scan.endsIn? rule size = some ((List.range size).map fun ordinal =>
    Number.extremes? (scan.values.filter fun x => x.isFinite && bucketOf x == ordinal)) := by
  rw [endsIn?, mapM_eq_some_map (g := fun x => (bucketOf x, x)) fun x _ => by
    rw [found, Option.map_some], Option.bind_some, Table.fill?_blank none]
  · refine congrArg some (List.map_congr_left fun ordinal _ => ?_)
    have held (x : Float) : (decide (bucketOf x = ordinal) && x.isFinite) =
        (x.isFinite && bucketOf x == ordinal) := Bool.and_comm _ _
    rw [Table.entryAfter, List.filter_filter, List.filter_map, List.foldl_map, foldl_widened]
    simp only [Function.comp_def, held]
  · intro thing listed
    obtain ⟨x, _, rfl⟩ := List.mem_map.mp (List.mem_filter.mp listed).1
    exact small x

end Rule

namespace NumberScale

variable (scale : NumberScale) (scan : Scan Float)

def bucketIn? (x : Float) : Option Ordinal :=
  match scale with
  | .log => some (LogScale.bucketOf x)
  | .linear scale => scale.bucketIn? x

/-- The numbers shown for a bucket, given the ends of its values. -/
def shownBetween (kind : NumberKind) (specials : Specials) (ends : Option (Float × Float))
    (ordinal : Ordinal) : Float × Float :=
  match scale with
  | .log => LogScale.edges ordinal
  | .linear scale =>
    match kind, ends with
    | .integer, some ends => ends
    | _, _ => scale.edges ordinal specials

/-- The histogram of a reading by its tables. -/
def tallyIn? (kind : NumberKind) : Option (List Bucket) :=
  (scan.bucketsIn? scale.bucketIn?).bind fun buckets =>
    (scan.endsIn? scale.bucketIn? scale.size).bind fun table =>
      buckets.tallyIn? scale.size fun ordinal => (table[ordinal]?).map fun ends =>
        let (start, stop) := scale.shownBetween kind (.ofValues scan.values) ends ordinal
        .range start stop

theorem bucketIn?_eq (x : Float) : scale.bucketIn? x = some (scale.bucketOf x) := by
  cases scale with
  | log => rfl
  | linear scale => exact scale.bucketIn?_eq x

/-- The tables of a reading say what its buckets say. -/
theorem tallyIn?_eq (kind : NumberKind) : scale.tallyIn? scan kind =
    some ((Buckets.ofScan (fun x => some (scale.bucketOf x)) scan).tally fun ordinal =>
      some (.range (scale.shown kind scan.values ordinal).1
        (scale.shown kind scan.values ordinal).2)) := by
  have within := Buckets.within_ofScan scan scale.bucketOf_lt
  have looked : ∀ ordinal ∈ (Buckets.ofScan (fun x => some (scale.bucketOf x)) scan).occupied,
      (((List.range scale.size).map fun ordinal => Number.extremes? (scan.values.filter fun x =>
        x.isFinite && scale.bucketOf x == ordinal))[ordinal]?).map (fun ends =>
          Descriptor.range (scale.shownBetween kind (.ofValues scan.values) ends ordinal).1
            (scale.shownBetween kind (.ofValues scan.values) ends ordinal).2) =
        some (.range (scale.shown kind scan.values ordinal).1
          (scale.shown kind scan.values ordinal).2) := by
    intro ordinal occupied
    rw [Buckets.occupied_eq within, List.mem_filter, List.mem_range] at occupied
    rw [List.getElem?_map, List.getElem?_range occupied.1]
    cases scale <;> rfl
  rw [tallyIn?, scan.bucketsIn?_eq scale.bucketIn?_eq, Option.bind_some,
    scan.endsIn?_eq scale.bucketIn?_eq scale.bucketOf_lt, Option.bind_some]
  refine (Buckets.tallyIn?_eq within (Buckets.nodup_ofScan _ scan) fun ordinal occupied => ?_).trans ?_
  · rw [looked ordinal occupied, Option.isSome_some]
  · exact congrArg some (Buckets.tally_congr looked)

end NumberScale

namespace RankTable

/-- The histogram of a reading whose distinct values are counted in a table, all of which are listed. -/
def tallyIn? (table : RankTable) (scan : Scan Float) : Option (List Bucket) :=
  ((Buckets.ofScan table.rank? scan).countIn? table.size).bind fun counts =>
    Buckets.listed? (fun ordinal => (table.valueAt? ordinal).map .value) counts.zipIdx

theorem within_ofScan (table : RankTable) (scan : Scan Float) :
    (Buckets.ofScan table.rank? scan).Within table.size := by
  intro document member ordinal held
  obtain ⟨reading, _, rfl⟩ := List.mem_map.mp member
  obtain ⟨x, _, ranked⟩ := List.mem_filterMap.mp (Ascending.mem_ofList.mp held)
  exact (List.idxOf?_eq_some_iff.mp ranked).1

/-- Every rank is that of some value. -/
theorem exists_ranked {xs : List Float} {ordinal : Ordinal} (small : ordinal < (ofValues xs).size) :
    ∃ x ∈ xs, (ofValues xs).valueAt? ordinal = some x := by
  obtain ⟨x, member, same⟩ := mem_keys.mp (List.getElem_mem small)
  refine ⟨x, member, ?_⟩
  rw [valueAt?, List.getElem?_eq_getElem small, Option.map_some, ← same, ValueKey.value_ofValue]

theorem count_pos (scan : Scan Float) {ordinal : Ordinal}
    (small : ordinal < (ofValues scan.values).size) :
    0 < (Buckets.ofScan (ofValues scan.values).rank? scan).count ordinal := by
  obtain ⟨x, member, placed⟩ := exists_ranked small
  obtain ⟨document, listed, held⟩ := List.mem_flatMap.mp member
  refine List.countP_pos_iff.mpr ⟨_, List.mem_map.mpr ⟨document, listed, rfl⟩, ?_⟩
  rw [List.contains_iff_mem, Ascending.mem_ofList, List.mem_filterMap]
  exact ⟨x, held, valueAt?_eq_some_iff.mp placed⟩

theorem tallyIn?_eq (scan : Scan Float) : (ofValues scan.values).tallyIn? scan =
    some ((Buckets.ofScan (ofValues scan.values).rank? scan).tally fun ordinal =>
      ((ofValues scan.values).valueAt? ordinal).map .value) := by
  have within := (ofValues scan.values).within_ofScan scan
  have all : (List.range (ofValues scan.values).size).filter (fun ordinal =>
      0 < (Buckets.ofScan (ofValues scan.values).rank? scan).count ordinal) =
        List.range (ofValues scan.values).size :=
    List.filter_eq_self.mpr fun ordinal inside =>
      decide_eq_true (count_pos scan (List.mem_range.mp inside))
  rw [tallyIn?, Buckets.countIn?_eq within (Buckets.nodup_ofScan _ scan), Option.bind_some,
    Buckets.zipIdx_map_range, Buckets.tally, Buckets.occupied_eq within, all]
  refine Buckets.listed?_eq fun ordinal inside => ?_
  obtain ⟨x, _, placed⟩ := exists_ranked (List.mem_range.mp inside)
  rw [placed, Option.map_some, Option.isSome_some]

end RankTable

namespace Hits

/-- The hits at some positions, all of which have to be there. -/
def atPositionsIn? (hits : Hits) (positions : List ℕ) : Option Hits :=
  positions.mapM fun position => hits[position]?

theorem atPositionsIn?_eq {hits : Hits} {positions : List ℕ}
    (inside : ∀ position ∈ positions, position < hits.length) :
    hits.atPositionsIn? positions = some (hits.atPositions positions) :=
  mapM_eq_some_filterMap fun position member => by
    rw [List.getElem?_eq_getElem (inside position member), Option.isSome_some]

end Hits

/-- The groups of a plan by the items at their positions. -/
def Plan.groupsIn? (plan : Plan) (hits : Hits) : Option (List (ℕ × Ordinal)) :=
  ((plan.groups.map (·.1)).mapM fun position => (hits[position]?).map fun hit =>
    hit.item.group.map (position, ·)).map List.reduceOption

theorem Plan.groupsIn?_eq (rowOf : Item → Option RowId) (expanding : Bool) (hits : Hits) :
    (make rowOf expanding hits).groupsIn? hits = some (make rowOf expanding hits).groups := by
  have looked : ∀ place ∈ (make rowOf expanding hits).groups,
      (hits[place.1]?).map (fun hit => hit.item.group.map (place.1, ·)) = some (some place) := by
    intro place member
    obtain ⟨hit, here, _, grouped⟩ := mem_groups.mp member
    rw [here, Option.map_some, grouped]
    rfl
  rw [groupsIn?, List.mapM_map]
  refine (congrArg (Option.map List.reduceOption) (mapM_eq_some_map looked)).trans ?_
  rw [Option.map_some, List.reduceOption, List.filterMap_map]
  exact congrArg some List.filterMap_some

end Facets
