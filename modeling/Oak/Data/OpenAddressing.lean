import Mathlib.Data.Finmap
import Mathlib.Data.List.ReduceOption

namespace Oak.Data.OpenAddressing

/-! Open addressing with linear probing, as a finite map.

A table is a list of slots; a key is searched from its home slot on, cyclically,
up to the key itself or the first free slot.  `Placed` is the invariant that
makes a search complete: no free slot lies between the home of a stored key and
the slot that holds it. -/

section Slots

variable {κ ν : Type} [DecidableEq κ]

inductive Probe where
  | found (index : Nat)
  | free (index : Nat)
deriving Repr, DecidableEq

def Probe.index : Probe → Nat
  | .found index => index
  | .free index => index

/-- The probing loop, cut off after `fuel` slots. -/
def probe (slots : List (Option (κ × ν))) (key : κ) : Nat → Nat → Option Probe
  | 0, _ => none
  | fuel + 1, index =>
    match slots[index]? with
    | none => none
    | some none => some (.free index)
    | some (some held) =>
      if held.1 = key then some (.found index)
      else probe slots key fuel ((index + 1) % slots.length)

/-- After a full turn the loop is back at its first slot, so a search that needs more never ends. -/
def search (home : κ → Nat) (slots : List (Option (κ × ν))) (key : κ) : Option Probe :=
  probe slots key slots.length (home key)

/-- The slot holds some other key, and the search for `key` goes on to the next one. -/
def Passes (slots : List (Option (κ × ν))) (key : κ) (index : Nat) : Prop :=
  ∃ other : κ × ν, slots[index]? = some (some other) ∧ other.1 ≠ key

def Probe.Rests (slots : List (Option (κ × ν))) (key : κ) : Probe → Prop
  | .found index => ∃ value, slots[index]? = some (some (key, value))
  | .free index => slots[index]? = some none

def Placed (home : κ → Nat) (slots : List (Option (κ × ν))) : Prop :=
  ∀ index key value, slots[index]? = some (some (key, value)) →
    ∃ steps < slots.length, index = (home key + steps) % slots.length ∧
      ∀ earlier < steps, Passes slots key ((home key + earlier) % slots.length)

omit [DecidableEq κ] in
theorem placed_empty (home : κ → Nat) (size : Nat) :
    Placed home (List.replicate size (none : Option (κ × ν))) := by
  intro index key value held
  rw [List.getElem?_replicate] at held
  split at held <;> simp at held

variable {slots : List (Option (κ × ν))} {key : κ}

theorem probe_spec {fuel start : Nat} {result : Probe} (inside : start < slots.length)
    (ended : probe slots key fuel start = some result) :
    result.Rests slots key ∧ ∃ steps < fuel, result.index = (start + steps) % slots.length ∧
      ∀ earlier < steps, Passes slots key ((start + earlier) % slots.length) := by
  induction fuel generalizing start with
  | zero => simp [probe] at ended
  | succ fuel ih =>
    have here : start = (start + 0) % slots.length := by simp [Nat.mod_eq_of_lt inside]
    cases slot : slots[start]? with
    | none => simp [probe, slot] at ended
    | some content =>
      cases content with
      | none =>
        simp only [probe, slot, Option.some.injEq] at ended
        subst ended
        exact ⟨slot, 0, Nat.succ_pos _, here, fun earlier impossible => by omega⟩
      | some held =>
        by_cases same : held.1 = key
        · simp only [probe, slot, same, if_true, Option.some.injEq] at ended
          subst ended
          refine ⟨⟨held.2, ?_⟩, 0, Nat.succ_pos _, here, fun earlier impossible => by omega⟩
          rw [slot, ← same]
        · simp only [probe, slot, same] at ended
          have wrapped : (start + 1) % slots.length < slots.length :=
            Nat.mod_lt _ (by omega)
          obtain ⟨rests, steps, short, stopped, passed⟩ := ih wrapped ended
          refine ⟨rests, steps + 1, by omega, ?_, ?_⟩
          · rw [stopped, Nat.mod_add_mod, Nat.add_assoc, Nat.add_comm 1]
          · intro earlier before
            cases earlier with
            | zero =>
              rw [← here]
              exact ⟨held, slot, same⟩
            | succ earlier =>
              have next := passed earlier (by omega)
              rwa [Nat.mod_add_mod, Nat.add_assoc, Nat.add_comm 1] at next

theorem probe_ends {fuel start distance : Nat} (inside : start < slots.length)
    (near : distance < fuel) (free : slots[(start + distance) % slots.length]? = some none) :
    ∃ result, probe slots key fuel start = some result := by
  induction fuel generalizing start distance with
  | zero => omega
  | succ fuel ih =>
    cases slot : slots[start]? with
    | none => simp [inside] at slot
    | some content =>
      cases content with
      | none => exact ⟨.free start, by simp [probe, slot]⟩
      | some held =>
        by_cases same : held.1 = key
        · exact ⟨.found start, by simp [probe, slot, same]⟩
        · cases distance with
          | zero =>
            rw [Nat.add_zero, Nat.mod_eq_of_lt inside, slot] at free
            cases free
          | succ distance =>
            simp only [probe, slot, same]
            apply ih (Nat.mod_lt _ (by omega)) (Nat.lt_of_succ_lt_succ near)
            rw [Nat.mod_add_mod, Nat.add_assoc, Nat.add_comm 1]
            exact free

/-- A full turn comes past every slot. -/
theorem reaches {start target size : Nat} (inside : start < size) (bound : target < size) :
    ∃ steps < size, (start + steps) % size = target := by
  refine ⟨(target + (size - start)) % size, Nat.mod_lt _ (by omega), ?_⟩
  have turn : start + (target + (size - start)) = target + size := by omega
  rw [Nat.add_mod_mod, turn, Nat.add_mod_right, Nat.mod_eq_of_lt bound]

variable {home : κ → Nat}

theorem search_ends (inside : home key < slots.length) (room : none ∈ slots) :
    ∃ result, search home slots key = some result := by
  obtain ⟨index, bound, free⟩ := List.getElem_of_mem room
  obtain ⟨steps, near, reached⟩ := reaches inside bound
  apply probe_ends inside near
  rw [reached, List.getElem?_eq_getElem bound, free]

theorem search_empty {size : Nat} (inside : home key < size) :
    search home (List.replicate size (none : Option (κ × ν))) key = some (.free (home key)) := by
  obtain ⟨fuel, rfl⟩ := Nat.exists_eq_succ_of_ne_zero (Nat.ne_of_gt (Nat.zero_lt_of_lt inside))
  rw [search, List.length_replicate, probe, List.getElem?_replicate_of_lt inside]

variable {index : Nat}

theorem Placed.absent (placed : Placed home slots) (inside : home key < slots.length)
    (ended : search home slots key = some (.free index)) (value : ν) :
    some (key, value) ∉ slots := by
  intro stored
  obtain ⟨holder, bound, held⟩ := List.getElem_of_mem stored
  have occupied : slots[holder]? = some (some (key, value)) := by
    rw [List.getElem?_eq_getElem bound, held]
  obtain ⟨needed, -, position, path⟩ := placed holder key value occupied
  obtain ⟨free, steps, -, stopped, passed⟩ := probe_spec inside ended
  simp only [Probe.Rests, Probe.index] at free stopped
  rcases Nat.lt_trichotomy steps needed with sooner | exactly | later
  · obtain ⟨other, taken, -⟩ := path steps sooner
    rw [← stopped, free] at taken
    cases taken
  · rw [stopped, exactly, ← position, occupied] at free
    cases free
  · obtain ⟨other, taken, different⟩ := passed needed later
    rw [← position, occupied] at taken
    cases taken
    exact different rfl

omit [DecidableEq κ] in
theorem Placed.set {value : ν} (placed : Placed home slots) (bound : index < slots.length)
    (kept : ∀ stored position, Passes slots stored position →
      Passes (slots.set index (some (key, value))) stored position)
    (reached : ∃ steps < slots.length, index = (home key + steps) % slots.length ∧
      ∀ earlier < steps, Passes slots key ((home key + earlier) % slots.length)) :
    Placed home (slots.set index (some (key, value))) := by
  intro holder stored content held
  rw [List.length_set]
  by_cases here : index = holder
  · subst here
    rw [List.getElem?_set_self bound] at held
    cases held
    obtain ⟨needed, near, position, path⟩ := reached
    exact ⟨needed, near, position, fun earlier before => kept _ _ (path earlier before)⟩
  · rw [List.getElem?_set_ne here] at held
    obtain ⟨needed, near, position, path⟩ := placed holder stored content held
    exact ⟨needed, near, position, fun earlier before => kept _ _ (path earlier before)⟩

theorem Placed.fill (placed : Placed home slots) (inside : home key < slots.length)
    (ended : search home slots key = some (.free index)) (value : ν) :
    Placed home (slots.set index (some (key, value))) := by
  obtain ⟨free, reached⟩ := probe_spec inside ended
  simp only [Probe.Rests] at free reached
  refine placed.set (List.getElem?_eq_some_iff.mp free).1 ?_ reached
  -- the filled slot was free, so no path ran through it
  rintro stored position ⟨other, taken, different⟩
  have apart : index ≠ position := by
    rintro rfl
    rw [free] at taken
    cases taken
  exact ⟨other, by rwa [List.getElem?_set_ne apart], different⟩

omit [DecidableEq κ] in
theorem Placed.replace {before : ν} (placed : Placed home slots)
    (occupied : slots[index]? = some (some (key, before))) (after : ν) :
    Placed home (slots.set index (some (key, after))) := by
  have bound : index < slots.length := (List.getElem?_eq_some_iff.mp occupied).1
  refine placed.set bound ?_ (placed index key before occupied)
  rintro stored position ⟨other, taken, different⟩
  by_cases here : index = position
  · subst here
    rw [occupied] at taken
    cases taken
    exact ⟨(key, after), List.getElem?_set_self bound, different⟩
  · exact ⟨other, by rwa [List.getElem?_set_ne here], different⟩

end Slots

section Pairs

variable {index : Nat}

theorem set_reduceOption {α : Type} {slots : List (Option α)} (inside : index < slots.length) :
    ∃ others : List α, ∀ content : Option α,
      (slots.set index content).reduceOption.Perm (content.toList ++ others) := by
  refine ⟨(slots.take index).reduceOption ++ (slots.drop (index + 1)).reduceOption,
    fun content => ?_⟩
  rw [List.set_eq_take_append_cons_drop, if_pos inside, List.reduceOption_append]
  cases content with
  | none => exact .refl _
  | some pair => exact List.perm_middle

theorem set_reduceOption_free {α : Type} {slots : List (Option α)}
    (free : slots[index]? = some none) (pair : α) :
    (slots.set index (some pair)).reduceOption.Perm (pair :: slots.reduceOption) := by
  obtain ⟨inside, content⟩ := List.getElem?_eq_some_iff.mp free
  obtain ⟨others, exchanged⟩ := set_reduceOption inside
  have before := exchanged none
  rw [← content, List.set_getElem_self, content] at before
  exact (exchanged (some pair)).trans (before.symm.cons pair)

theorem set_reduceOption_occupied {α : Type} {slots : List (Option α)} {before : α}
    (occupied : slots[index]? = some (some before)) :
    ∃ others, slots.reduceOption.Perm (before :: others) ∧
      ∀ after, (slots.set index (some after)).reduceOption.Perm (after :: others) := by
  obtain ⟨inside, content⟩ := List.getElem?_eq_some_iff.mp occupied
  obtain ⟨others, exchanged⟩ := set_reduceOption inside
  refine ⟨others, ?_, fun after => exchanged (some after)⟩
  have unchanged := exchanged (some before)
  rwa [← content, List.set_getElem_self, content] at unchanged

variable {κ ν : Type} [DecidableEq κ]

/-- The pairs are exactly the bindings of the finite map, each key once. -/
structure Represents (pairs : List (κ × ν)) (map : Finmap fun _ : κ => ν) : Prop where
  nodup : (pairs.map Prod.fst).Nodup
  lookup : ∀ key value, map.lookup key = some value ↔ (key, value) ∈ pairs

namespace Represents

variable {pairs others : List (κ × ν)} {map : Finmap fun _ : κ => ν} {key : κ}

theorem empty : Represents ([] : List (κ × ν)) ∅ where
  nodup := List.nodup_nil
  lookup := by simp

theorem perm (represents : Represents pairs map) (same : pairs.Perm others) :
    Represents others map where
  nodup := ((same.map Prod.fst).nodup_iff).mp represents.nodup
  lookup key value := (represents.lookup key value).trans same.mem_iff

theorem lookup_eq_none (represents : Represents pairs map)
    (absent : ∀ value, (key, value) ∉ pairs) : map.lookup key = none := by
  cases found : map.lookup key with
  | none => rfl
  | some value => exact absurd ((represents.lookup key value).mp found) (absent value)

theorem insert_fresh (fresh : key ∉ pairs.map Prod.fst) (nodup : (pairs.map Prod.fst).Nodup)
    (same : ∀ asked content, asked ≠ key →
      (map.lookup asked = some content ↔ (asked, content) ∈ pairs)) (value : ν) :
    Represents ((key, value) :: pairs) (map.insert key value) where
  nodup := List.nodup_cons.mpr ⟨fresh, nodup⟩
  lookup asked content := by
    by_cases own : asked = key
    · subst own
      have absent : (asked, content) ∉ pairs := fun member => fresh (List.mem_map_of_mem member)
      simp [absent, eq_comm]
    · rw [Finmap.lookup_insert_of_ne map own, same asked content own]
      simp [own]

theorem insert_absent (represents : Represents pairs map)
    (absent : ∀ value, (key, value) ∉ pairs) (value : ν) :
    Represents ((key, value) :: pairs) (map.insert key value) := by
  refine insert_fresh ?_ represents.nodup (fun asked content _ => represents.lookup asked content) _
  intro listed
  obtain ⟨⟨stored, content⟩, member, rfl⟩ := List.mem_map.mp listed
  exact absent content member

theorem insert_present {before : ν} (represents : Represents ((key, before) :: pairs) map)
    (after : ν) : Represents ((key, after) :: pairs) (map.insert key after) := by
  obtain ⟨fresh, nodup⟩ := List.nodup_cons.mp represents.nodup
  refine insert_fresh fresh nodup (fun asked content other => ?_) after
  rw [represents.lookup]
  simp [other]

theorem card_keys (represents : Represents pairs map) : map.keys.card = pairs.length := by
  have keys : map.keys = (pairs.map Prod.fst).toFinset := by
    ext asked
    rw [Finmap.mem_keys, ← Finmap.lookup_isSome, Option.isSome_iff_exists]
    simp [represents.lookup]
  rw [keys, List.toFinset_card_of_nodup represents.nodup, List.length_map]

end Represents

end Pairs

end Oak.Data.OpenAddressing
