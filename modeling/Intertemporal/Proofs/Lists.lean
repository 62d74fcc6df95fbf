import Mathlib.Data.List.Forall2
import Mathlib.Data.List.Nodup

/-!
# Lists and their positions

Positions of items in lists without repeated items, and look-ups in lists with different keys.
-/

namespace Intertemporal

variable {β γ δ : Type}

theorem mem_zip_zip {first : List β} {second : List γ} {third : List δ} {item : β} {other : γ}
    {another : δ} (member : (item, other, another) ∈ first.zip (second.zip third)) :
    (item, other) ∈ first.zip second ∧ (item, another) ∈ first.zip third := by
  obtain ⟨place, found⟩ := List.mem_iff_getElem?.mp member
  obtain ⟨atFirst, paired⟩ := List.getElem?_zip_eq_some.mp found
  obtain ⟨atSecond, atThird⟩ := List.getElem?_zip_eq_some.mp paired
  exact ⟨List.mem_iff_getElem?.mpr ⟨place, List.getElem?_zip_eq_some.mpr ⟨atFirst, atSecond⟩⟩,
    List.mem_iff_getElem?.mpr ⟨place, List.getElem?_zip_eq_some.mpr ⟨atFirst, atThird⟩⟩⟩

theorem exists_of_mem_zip {first : List β} {second : List γ}
    (sized : first.length = second.length) {item : β} (member : item ∈ first) :
    ∃ other, (item, other) ∈ first.zip second := by
  rw [← List.map_fst_zip (Nat.le_of_eq sized)] at member
  rcases List.mem_map.mp member with ⟨⟨_, other⟩, among, rfl⟩
  exact ⟨other, among⟩

theorem exists_of_mem_right {relation : β → γ → Prop} {first : List β} {second : List γ}
    (paired : List.Forall₂ relation first second) {item : γ} (member : item ∈ second) :
    ∃ partner ∈ first, relation partner item := by
  induction paired with
  | nil => cases member
  | cons related _ ih =>
      rcases List.mem_cons.mp member with rfl | later
      · exact ⟨_, List.mem_cons_self, related⟩
      · obtain ⟨partner, among, relatedLater⟩ := ih later
        exact ⟨partner, List.mem_cons_of_mem _ among, relatedLater⟩

theorem exists_of_mem_left {relation : β → γ → Prop} {first : List β} {second : List γ}
    (paired : List.Forall₂ relation first second) {item : β} (member : item ∈ first) :
    ∃ partner ∈ second, relation item partner :=
  exists_of_mem_right paired.flip member

theorem append_subset_append {first second third fourth : List β} (left : first ⊆ third)
    (right : second ⊆ fourth) : first ++ second ⊆ third ++ fourth :=
  List.append_subset.mpr
    ⟨List.subset_append_of_subset_left _ left, List.subset_append_of_subset_right _ right⟩

theorem any_congr_of_mem {items : List β} {first second : β → Bool}
    (same : ∀ item ∈ items, first item = second item) : items.any first = items.any second := by
  rw [Bool.eq_iff_iff, List.any_eq_true, List.any_eq_true]
  exact exists_congr fun item => and_congr_right fun member => by rw [same item member]

theorem all_congr_of_mem {items : List β} {first second : β → Bool}
    (same : ∀ item ∈ items, first item = second item) : items.all first = items.all second := by
  rw [Bool.eq_iff_iff, List.all_eq_true, List.all_eq_true]
  exact forall_congr' fun item => imp_congr_right fun member => by rw [same item member]

theorem map_eq_map_iff {left : β → δ} {right : γ → δ} {first : List β} {second : List γ} :
    first.map left = second.map right ↔
      List.Forall₂ (fun item partner => left item = right partner) first second := by
  have equal : List.Forall₂ Eq (first.map left) (second.map right) ↔
      first.map left = second.map right := by rw [List.forall₂_eq_eq_eq]
  rw [← equal, List.forall₂_map_left_iff, List.forall₂_map_right_iff]

theorem forall₂_map_right {change : β → γ} (items : List β) :
    List.Forall₂ (fun item other => item ∈ items ∧ other = change item) items
      (items.map change) := by
  rw [List.forall₂_map_right_iff]
  exact List.forall₂_same.mpr fun item member => ⟨member, rfl⟩

theorem eq_map_of_forall₂ {change : β → γ} {items : List β} {others : List γ}
    (paired : List.Forall₂ (fun item other => other = change item) items others) :
    others = items.map change := by
  rw [← List.map_id others]
  exact map_eq_map_iff.mpr (paired.flip.imp fun _ _ same => same)

theorem map_eq_map_of_forall₂ {relation : β → γ → Prop} {first : List β} {second : List γ}
    {left : β → δ} {right : γ → δ} (paired : List.Forall₂ relation first second)
    (agree : ∀ item ∈ first, ∀ partner, relation item partner → right partner = left item) :
    second.map right = first.map left := by
  induction paired with
  | nil => rfl
  | cons related _ ih =>
      rw [List.map_cons, List.map_cons, agree _ List.mem_cons_self _ related,
        ih fun item member => agree item (List.mem_cons_of_mem _ member)]

/-- Partners of the same items are paired with each other. -/
theorem forall₂_of_common {left : β → γ → Prop} {right : β → δ → Prop} {goal : γ → δ → Prop}
    {items : List β} {first : List γ} {second : List δ}
    (related : ∀ item ∈ items, ∀ partner other, left item partner → right item other →
      goal partner other)
    (pairedLeft : List.Forall₂ left items first) (pairedRight : List.Forall₂ right items second) :
    List.Forall₂ goal first second := by
  induction pairedLeft generalizing second with
  | nil =>
      cases pairedRight
      exact .nil
  | cons here _ ih =>
      obtain ⟨relatedHere, relatedLater⟩ := List.forall_mem_cons.mp related
      cases pairedRight with
      | cons there later => exact .cons (relatedHere _ _ here there) (ih relatedLater later)

/-- In a list of items with different names, none before an item has its name. -/
theorem notMem_map_of_nodup {name : β → γ} {done later items : List β} {item : β}
    (distinct : (items.map name).Nodup) (whole : done ++ item :: later = items) :
    name item ∉ done.map name := by
  rw [← whole, List.map_append] at distinct
  exact fun member => (List.nodup_append.mp distinct).2.2 _ member _ List.mem_cons_self rfl

/-- In paired lists the item in a place on the left has its partner in the same place. -/
theorem exists_getElem?_of_forall₂ {relation : β → γ → Prop} {first : List β} {second : List γ}
    (paired : List.Forall₂ relation first second) {place : Nat} {item : β}
    (found : first[place]? = some item) :
    ∃ partner, second[place]? = some partner ∧ relation item partner := by
  induction paired generalizing place with
  | nil => cases found
  | cons related _ ih =>
      cases place with
      | zero =>
          obtain rfl := Option.some.inj found
          exact ⟨_, rfl, related⟩
      | succ place => exact ih found

/-- Partners of different items differ, if no partner belongs to two items. -/
theorem nodup_of_forall₂ {relation : β → γ → Prop} {first : List β} {second : List γ}
    (unique : ∀ item other partner, relation item partner → relation other partner → item = other)
    (paired : List.Forall₂ relation first second) (distinct : first.Nodup) : second.Nodup := by
  induction paired with
  | nil => exact List.nodup_nil
  | cons related later ih =>
      obtain ⟨fresh, distinctRest⟩ := List.nodup_cons.mp distinct
      refine List.nodup_cons.mpr ⟨?_, ih distinctRest⟩
      intro member
      obtain ⟨other, among, relatedOther⟩ := exists_of_mem_right later member
      exact fresh (unique _ _ _ related relatedOther ▸ among)

/-- Where the parts of a list are equally long, an item of a part is found by the place of the part
and the place in it. -/
theorem getElem?_flatMap {part : β → List γ} {size : Nat} {items : List β}
    (sized : ∀ item ∈ items, (part item).length = size) {place row : Nat} (inRange : row < size)
    {item : β} (found : items[place]? = some item) :
    (items.flatMap part)[place * size + row]? = (part item)[row]? := by
  induction items generalizing place with
  | nil => cases found
  | cons first rest ih =>
      obtain ⟨sizedFirst, sizedRest⟩ := List.forall_mem_cons.mp sized
      rw [List.flatMap_cons]
      cases place with
      | zero =>
          obtain rfl := Option.some.inj found
          rw [Nat.zero_mul, Nat.zero_add, List.getElem?_append_left (by omega)]
      | succ place =>
          have beyond : (place + 1) * size + row = (part first).length + (place * size + row) := by
            rw [Nat.succ_mul, sizedFirst]
            omega
          rw [beyond, List.getElem?_append_right (Nat.le_add_right _ _), Nat.add_sub_cancel_left]
          exact ih sizedRest found

variable {κ : Type} [BEq κ] [LawfulBEq κ]

theorem getElem?_of_idxOf? {items : List κ} {item : κ} {position : Nat}
    (found : items.idxOf? item = some position) : items[position]? = some item := by
  obtain ⟨inRange, same, _⟩ := List.idxOf?_eq_some_iff.mp found
  exact List.getElem?_eq_some_iff.mpr ⟨inRange, same⟩

/-- In a list without repeated items, an item is found where it is. -/
theorem idxOf?_eq_some_iff_of_nodup {items : List κ} (distinct : items.Nodup) {item : κ}
    {position : Nat} : items.idxOf? item = some position ↔ items[position]? = some item := by
  constructor
  · exact getElem?_of_idxOf?
  · intro atPosition
    obtain ⟨inRange, same⟩ := List.getElem?_eq_some_iff.mp atPosition
    refine List.idxOf?_eq_some_iff.mpr ⟨inRange, same, ?_⟩
    intro earlier before repeated
    have := (distinct.getElem_inj_iff).mp (repeated.trans same.symm)
    omega

/-- Among items with different names, one is found by its name. -/
theorem find?_eq_some_of_nodup {name : β → κ} {items : List β} (distinct : (items.map name).Nodup)
    {item : β} (member : item ∈ items) : items.find? (name · == name item) = some item := by
  induction items with
  | nil => cases member
  | cons first rest ih =>
      obtain ⟨fresh, distinctRest⟩ := List.nodup_cons.mp distinct
      rcases List.mem_cons.mp member with rfl | later
      · exact List.find?_cons_of_pos BEq.rfl
      · refine Eq.trans (List.find?_cons_of_neg fun same => fresh ?_) (ih distinctRest later)
        rw [eq_of_beq same]
        exact List.mem_map_of_mem later

theorem lookup_eq_some_iff {entries : List (κ × β)} (distinct : (entries.map (·.1)).Nodup)
    {key : κ} {value : β} : entries.lookup key = some value ↔ (key, value) ∈ entries := by
  induction entries with
  | nil => simp
  | cons entry rest ih =>
      obtain ⟨fresh, distinctRest⟩ := List.nodup_cons.mp distinct
      rw [List.lookup_cons, List.mem_cons]
      by_cases same : key = entry.1
      · subst same
        simp only [BEq.rfl, Option.some.injEq]
        constructor
        · rintro rfl
          exact Or.inl rfl
        · rintro (here | later)
          · exact (congrArg Prod.snd here).symm
          · exact absurd (List.mem_map_of_mem later) fresh
      · have differs : (key == entry.1) = false := beq_eq_false_iff_ne.mpr same
        simp only [differs, ih distinctRest]
        constructor
        · exact Or.inr
        · rintro (here | later)
          · exact absurd (congrArg Prod.fst here) same
          · exact later

end Intertemporal
