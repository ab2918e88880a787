import Oak.Kernel.Mmap

namespace Oak.Kernel

open Oak.Data

/-! The search for unmapped pages, by the addresses that have a mapping. -/

theorem VirtAddr.add_eq_ok {addr : VirtAddr} {offset : Nat} {sum : VirtAddr} :
    addr.add offset = .ok sum ↔ sum.value = addr.value + offset := by
  rw [VirtAddr.add, Nat.add_comm]
  split
  · rw [Except.ok.injEq]
    exact ⟨fun same => by rw [← same], fun same => VirtAddr.ext same.symm⟩
  · next outside =>
    refine ⟨nofun, fun same => absurd ?_ outside⟩
    rw [← same]
    exact sum.canonical

theorem VirtAddr.add_isPanic {addr : VirtAddr} {offset : Nat}
    (outside : ¬ Canonical (addr.value + offset)) : (addr.add offset).IsPanic := by
  rw [Nat.add_comm] at outside
  rw [VirtAddr.add, dif_neg outside]
  trivial

namespace Page

variable {size : PageSize} {page next : Page size}

theorem dvd_half (size : PageSize) : size.bytes ∣ 2 ^ 64 - 2 ^ 47 := by
  cases size <;> decide

theorem value_containingAddress (addr : VirtAddr) :
    (containingAddress addr : Page size).start.value = addr.value / size.bytes * size.bytes := by
  refine VirtAddr.signExtend_of_canonical ?_
  have below := Nat.div_mul_le_self addr.value size.bytes
  rcases addr.canonical with low | ⟨high, bound⟩
  · exact Or.inl (below.trans_lt low)
  · refine Or.inr ⟨?_, below.trans_lt bound⟩
    obtain ⟨count, whole⟩ := dvd_half size
    rw [whole, Nat.mul_comm] at high ⊢
    exact Nat.mul_le_mul_right _ ((Nat.le_div_iff_mul_le size.bytes_pos).mpr high)

theorem containingAddress_start {other : PageSize} (divides : other.bytes ∣ size.bytes) :
    (containingAddress page.start : Page other).start = page.start := by
  refine VirtAddr.ext ?_
  rw [value_containingAddress]
  exact Nat.div_mul_cancel (divides.trans page.aligned)

variable {count : Nat}

theorem add_eq_ok : page.add count = .ok next ↔
    next.start.value = page.start.value + count * size.bytes := by
  rw [add, Outcome.bind_eq_ok]
  constructor
  · rintro ⟨start, sum, same⟩
    cases same
    rw [VirtAddr.add_eq_ok] at sum
    rw [value_containingAddress, sum]
    exact Nat.div_mul_cancel (Nat.dvd_add page.aligned (Nat.dvd_mul_left _ _))
  · intro sum
    exact ⟨next.start, VirtAddr.add_eq_ok.mpr sum,
      congrArg _ (Page.ext (containingAddress_start dvd_rfl))⟩

theorem add_ok (canonical : Canonical (page.start.value + count * size.bytes)) :
    ∃ next, page.add count = .ok next ∧
      next.start.value = page.start.value + count * size.bytes := by
  let sum : VirtAddr := ⟨page.start.value + count * size.bytes, canonical⟩
  have aligned : size.bytes ∣ sum.value := Nat.dvd_add page.aligned (Nat.dvd_mul_left _ _)
  exact ⟨⟨sum, aligned⟩, add_eq_ok.mpr rfl, rfl⟩

theorem add_isPanic (outside : ¬ Canonical (page.start.value + count * size.bytes)) :
    (page.add count).IsPanic :=
  (VirtAddr.add_isPanic outside).bind _

end Page

/-- A range that begins in the lower half and does not end there. -/
def Crosses (start finish : Nat) : Prop := start < 2 ^ 47 ∧ 2 ^ 47 ≤ finish

section Search

variable {τ : Type} {words : Nat} {mapper : Mapper τ words} {tables : τ}

inductive Found (mapper : Mapper τ words) (tables : τ) (first last : Page .size4KiB) :
    Outcome Empty (Option (Page .size4KiB)) → Prop
  | nothing (within : ¬ Crosses first.start.value last.start.value)
      (unmapped : ∀ page : Page .size4KiB, first.start.value ≤ page.start.value →
        page.start.value < last.start.value → mapper.translateAddr tables page.start = none) :
      Found mapper tables first last (.ok none)
  | mapped {page : Page .size4KiB} (low : first.start.value ≤ page.start.value)
      (high : page.start.value < last.start.value)
      (inHalf : Crosses first.start.value last.start.value → page.start.value < 2 ^ 47)
      (isMapped : (mapper.translateAddr tables page.start).isSome)
      (unmapped : ∀ earlier : Page .size4KiB, first.start.value ≤ earlier.start.value →
        earlier.start.value < page.start.value → mapper.translateAddr tables earlier.start = none) :
      Found mapper tables first last (.ok (some page))
  | left {outcome : Outcome Empty (Option (Page .size4KiB))} (panicked : outcome.IsPanic)
      (crosses : Crosses first.start.value last.start.value)
      (unmapped : ∀ page : Page .size4KiB, first.start.value ≤ page.start.value →
        page.start.value + 4096 < 2 ^ 47 → mapper.translateAddr tables page.start = none) :
      Found mapper tables first last outcome

theorem Page.le_of_lt {size : PageSize} {page other : Page size}
    (before : page.start.value < other.start.value) :
    page.start.value + size.bytes ≤ other.start.value := by
  obtain ⟨count, whole⟩ := page.aligned
  obtain ⟨count', whole'⟩ := other.aligned
  rw [whole, whole'] at before ⊢
  have less : count < count' := Nat.lt_of_mul_lt_mul_left before
  calc size.bytes * count + size.bytes = size.bytes * (count + 1) := (Nat.mul_succ _ _).symm
    _ ≤ size.bytes * count' := Nat.mul_le_mul_left _ less

section

variable {size : PageSize} {first next last : Page size}

theorem Mapper.le_of_pagesBetween (none : pagesBetween first last ≤ 0) :
    last.start.value ≤ first.start.value := by
  by_contra before
  have room := Page.le_of_lt (Nat.not_le.mp before)
  have positive := size.bytes_pos
  rw [pagesBetween, Nat.le_zero, Nat.div_eq_zero_iff] at none
  omega

theorem Mapper.pagesBetween_le {fuel : Nat} (enough : pagesBetween first last ≤ fuel + 1)
    (step : first.start.value + size.bytes ≤ next.start.value) : pagesBetween next last ≤ fuel := by
  have fewer : last.start.value - next.start.value ≤
      last.start.value - first.start.value - size.bytes * 1 := by omega
  refine (Nat.div_le_div_right fewer).trans ?_
  rw [Nat.sub_mul_div]
  exact Nat.sub_le_of_le_add enough

theorem found_nothing {first last : Page .size4KiB} (back : last.start.value ≤ first.start.value) :
    Found mapper tables first last (.ok none) := by
  refine .nothing (fun crosses => ?_) fun page low high => ?_
  · have := crosses.1
    have := crosses.2
    omega
  · omega

end

theorem findMapped_found (last first : Page .size4KiB) (fuel : Nat)
    (enough : Mapper.pagesBetween first last ≤ fuel) :
    Found mapper tables first last (mapper.findMapped tables last fuel first) := by
  have lastCanonical := last.start.canonical
  have firstCanonical := first.start.canonical
  rw [Canonical] at lastCanonical firstCanonical
  induction fuel generalizing first with
  | zero => exact found_nothing (Mapper.le_of_pagesBetween enough)
  | succ fuel ih =>
    rw [Mapper.findMapped]
    split
    · next before =>
      have step := Page.le_of_lt before
      have bytes : PageSize.size4KiB.bytes = 4096 := rfl
      by_cases canonical : Canonical (first.start.value + 1 * PageSize.size4KiB.bytes)
      · obtain ⟨next, next_eq, value⟩ := Page.add_ok canonical
        rw [Canonical] at canonical
        rw [next_eq, Outcome.ok_bind]
        split
        · next isMapped =>
          refine .mapped le_rfl before (fun crosses => crosses.1) isMapped fun earlier low high => ?_
          omega
        · next notMapped =>
          have here : mapper.translateAddr tables first.start = none := by
            simpa using notMapped
          have extend {page : Page .size4KiB} (low : first.start.value ≤ page.start.value) :
              next.start.value ≤ page.start.value ∨
                mapper.translateAddr tables page.start = none := by
            rcases low.eq_or_lt with same | later
            · right
              rwa [← VirtAddr.ext same]
            · left
              rw [value]
              exact Page.le_of_lt later
          have same : Crosses next.start.value last.start.value ↔
              Crosses first.start.value last.start.value := by
            simp only [Crosses]
            omega
          have found := ih next (Mapper.pagesBetween_le enough (by omega)) next.start.canonical
          generalize mapper.findMapped tables last fuel next = outcome at found
          cases found with
          | nothing within unmapped =>
            exact .nothing (same.not.mp within) fun page low high =>
              (extend low).elim (fun later => unmapped page later high) id
          | mapped low high inHalf isMapped unmapped =>
            exact .mapped (by omega) high (fun crosses => inHalf (same.mpr crosses)) isMapped
              fun page low high => (extend low).elim (fun later => unmapped page later high) id
          | left panicked crosses unmapped =>
            exact .left panicked (same.mp crosses) fun page low high =>
              (extend low).elim (fun later => unmapped page later high) id
      · have panicked : (first.add 1).IsPanic := Page.add_isPanic canonical
        rw [Canonical] at canonical
        refine .left (panicked.bind _) ?_ fun page low high => ?_
        · simp only [Crosses]
          omega
        · omega
    · next after => exact found_nothing (Nat.not_lt.mp after)

variable (lawful : LawfulMapper mapper)

def LawfulMapper.Mapped (tables : τ) (address : Nat) : Prop := lawful.view tables address ≠ none

/-- No page table maps the last 2 MiB of the lower half: their end is no address. -/
def LawfulMapper.TopUnmapped (tables : τ) : Prop :=
  ∀ address, 2 ^ 47 - hugePage ≤ address → address < 2 ^ 47 → ¬ lawful.Mapped tables address

inductive Scanned (tables : τ) (start finish : Nat) :
    Outcome Empty (Except (Page .size2MiB) Unit) → Prop
  | free (within : ¬ Crosses start finish)
      (unmapped : ∀ address, start ≤ address → address < finish → ¬ lawful.Mapped tables address) :
      Scanned tables start finish (.ok (.ok ()))
  | used {page : Page .size2MiB} {address : Nat} (isMapped : lawful.Mapped tables address)
      (low : start ≤ address) (high : address < finish)
      (inHalf : Crosses start finish → address < 2 ^ 47)
      (here : page.start.value = address / hugePage * hugePage)
      (unmapped : ∀ earlier, start ≤ earlier → earlier < page.start.value →
        ¬ lawful.Mapped tables earlier) :
      Scanned tables start finish (.ok (.error page))
  | left {outcome : Outcome Empty (Except (Page .size2MiB) Unit)} (panicked : outcome.IsPanic)
      (crosses : Crosses start finish)
      (unmapped : ∀ address, start ≤ address → address < 2 ^ 47 → ¬ lawful.Mapped tables address) :
      Scanned tables start finish outcome

variable {lawful}

variable {address size : Nat}

theorem exists_page (canonical : Canonical address) :
    ∃ page : Page .size4KiB, page.start.value = address / 4096 * 4096 :=
  ⟨.containingAddress ⟨address, canonical⟩, Page.value_containingAddress _⟩

theorem mapped_iff {page : Page .size4KiB} (here : page.start.value = address / 4096 * 4096) :
    lawful.Mapped tables address ↔ mapper.translateAddr tables page.start ≠ none := by
  rw [lawful.translate, here, LawfulMapper.Mapped, ne_eq, ne_eq, Option.map_eq_none_iff]
  exact (lawful.whole tables address).not

theorem isUnallocated_scanned (top : lawful.TopUnmapped tables) (range : PageRange .size2MiB) :
    Scanned lawful tables range.start.start.value range.finish.start.value
      (mapper.isUnallocated tables range) := by
  have divides : PageSize.size4KiB.bytes ∣ PageSize.size2MiB.bytes := by decide
  have first : (Page.containingAddress range.start.start : Page .size4KiB).start =
    range.start.start := Page.containingAddress_start divides
  have last : (Page.containingAddress range.finish.start : Page .size4KiB).start =
    range.finish.start := Page.containingAddress_start divides
  have found := @findMapped_found _ _ mapper tables (.containingAddress range.finish.start)
    (.containingAddress range.start.start) _ le_rfl
  have startCanonical := range.start.start.canonical
  have finishCanonical := range.finish.start.canonical
  obtain ⟨startCount, startWhole⟩ := divides.trans range.start.aligned
  have bytes : PageSize.size4KiB.bytes = 4096 := rfl
  rw [bytes] at startWhole
  rw [Canonical] at startCanonical finishCanonical
  -- an address is unmapped if its page is
  have unmapped_of {address : Nat} (canonical : Canonical address)
      (low : range.start.start.value ≤ address)
      (page_none : ∀ page : Page .size4KiB, range.start.start.value ≤ page.start.value →
        page.start.value = address / 4096 * 4096 → mapper.translateAddr tables page.start = none) :
      ¬ lawful.Mapped tables address := by
    obtain ⟨page, here⟩ := exists_page canonical
    rw [mapped_iff here, not_not]
    exact page_none page (by omega) here
  rw [Mapper.isUnallocated]
  generalize mapper.findMapped tables _ _ _ = outcome at found
  cases found with
  | nothing within unmapped =>
    rw [first, last] at within unmapped
    refine .free within fun address low high => ?_
    have canonical : Canonical address := by
      simp only [Crosses, Canonical] at within ⊢
      omega
    exact unmapped_of canonical low fun page pageLow here => unmapped page pageLow (by omega)
  | @mapped page low high inHalf isMapped unmapped =>
    rw [first, last] at inHalf
    rw [first] at low unmapped
    rw [last] at high
    obtain ⟨pageCount, pageWhole⟩ := page.aligned
    rw [bytes] at pageWhole
    have here : (Page.containingAddress page.start : Page .size2MiB).start.value =
      page.start.value / hugePage * hugePage := Page.value_containingAddress page.start
    have below : page.start.value / hugePage * hugePage ≤ page.start.value :=
      Nat.div_mul_le_self _ _
    refine .used ?_ low high inHalf here fun earlier earlierLow earlierHigh => ?_
    · rw [mapped_iff (show page.start.value = page.start.value / 4096 * 4096 by omega)]
      exact Option.isSome_iff_ne_none.mp isMapped
    · have canonical : Canonical earlier := by
        simp only [Crosses, Canonical] at inHalf ⊢
        omega
      exact unmapped_of canonical earlierLow fun page pageLow same =>
        unmapped page pageLow (by omega)
  | left panicked crosses unmapped =>
    rw [first, last] at crosses
    rw [first] at unmapped
    refine .left (panicked.bind _) crosses fun address low high => ?_
    by_cases late : 2 ^ 47 - hugePage ≤ address
    · exact top address late high
    · have huge : hugePage = 2097152 := rfl
      exact unmapped_of (Or.inl high) low fun page pageLow here => unmapped page pageLow (by omega)

/-- No address of a range is mapped. -/
def RangeFree (mapped : Nat → Prop) (start size : Nat) : Prop :=
  ∀ address, start ≤ address → address < start + size → ¬ mapped address

/-- The end of the range is an address, and a walk over it does not get to the end of the lower
half. -/
def RangeFits (mapped : Nat → Prop) (start size : Nat) : Prop :=
  Canonical (start + size) ∧ (Crosses start (start + size) →
    ∃ address, start ≤ address ∧ address < 2 ^ 47 ∧ mapped address)

/-- The places where first fit looks: the start, and after each page that has a mapping. -/
def Candidate (mapped : Nat → Prop) (start place : Nat) : Prop :=
  place = start ∨ ∃ address, mapped address ∧ start ≤ address ∧
    place = address / hugePage * hugePage + hugePage

/-- Each range that first fit looks at, before it finds one that is free, fits. -/
def SearchFits (mapped : Nat → Prop) (limit start size : Nat) : Prop :=
  ∀ place, Candidate mapped start place → place < limit →
    (∀ earlier < place, Candidate mapped start earlier → ¬ RangeFree mapped earlier size) →
    RangeFits mapped place size

structure SearchSpec (mapped : Nat → Prop) (limit start from_ size : Nat)
    (outcome : Outcome Empty (Option (PageRange .size2MiB))) : Prop where
  panics_iff : ¬ outcome.IsPanic ↔ ∀ place, from_ ≤ place → Candidate mapped start place →
    place < limit →
    (∀ earlier < place, Candidate mapped start earlier → ¬ RangeFree mapped earlier size) →
    RangeFits mapped place size
  found : ∀ range, outcome = .ok (some range) → from_ ≤ range.start.start.value ∧
    range.finish.start.value = range.start.start.value + size ∧
    RangeFree mapped range.start.start.value size

theorem hugePage_eq : hugePage = 2097152 := rfl

variable {start : Page .size2MiB}

theorem scan_isPanic (top : lawful.TopUnmapped tables) {count : Nat}
    (outside : ¬ RangeFits (lawful.Mapped tables) start.start.value (count * hugePage)) {α : Type}
    (next : Page .size2MiB → Except (Page .size2MiB) Unit → Outcome Empty α) :
    Outcome.IsPanic (start.add count >>= fun finish =>
      mapper.isUnallocated tables ⟨start, finish⟩ >>= next finish) := by
  by_cases canonical : Canonical (start.start.value + count * hugePage)
  · obtain ⟨finish, finish_eq, value⟩ := Page.add_ok canonical
    rw [finish_eq, Outcome.ok_bind]
    have scanned := isUnallocated_scanned top ⟨start, finish⟩
    simp only [value] at scanned
    generalize mapper.isUnallocated tables ⟨start, finish⟩ = outcome at scanned
    cases scanned with
    | free within => exact absurd ⟨canonical, fun crosses => absurd crosses within⟩ outside
    | used isMapped low high inHalf =>
      exact absurd ⟨canonical, fun crosses => ⟨_, low, inHalf crosses, isMapped⟩⟩ outside
    | left panicked => exact panicked.bind _
  · exact (Page.add_isPanic canonical).bind _

variable {mapped : Nat → Prop}

theorem searchSpec_none {limit start place : Nat} (after : limit ≤ place) :
    SearchSpec mapped limit start place size (.ok none) where
  panics_iff := by
    refine ⟨fun _ later low _ high => ?_, fun _ => id⟩
    omega
  found := nofun

theorem le_containing (low : start.start.value ≤ address) :
    start.start.value ≤ address / hugePage * hugePage := by
  obtain ⟨count, whole⟩ := start.aligned
  have whole : start.start.value = count * hugePage := whole.trans (Nat.mul_comm _ _)
  rw [whole] at low ⊢
  exact Nat.mul_le_mul_right _ ((Nat.le_div_iff_mul_le (by decide)).mpr low)

theorem containing_add_le {finish : Page .size2MiB} (high : address < finish.start.value) :
    address / hugePage * hugePage + hugePage ≤ finish.start.value := by
  obtain ⟨count, whole⟩ := finish.aligned
  have whole : finish.start.value = count * hugePage := whole.trans (Nat.mul_comm _ _)
  rw [whole] at high ⊢
  rw [← Nat.succ_mul]
  exact Nat.mul_le_mul_right _ ((Nat.div_lt_iff_lt_mul (by decide)).mpr high)

theorem canonical_next {finish page : Page .size2MiB} (low : start.start.value ≤ address)
    (high : address < finish.start.value)
    (inHalf : Crosses start.start.value finish.start.value → address < 2 ^ 47)
    (early : address < 2 ^ 47 → address < 2 ^ 47 - hugePage)
    (here : page.start.value = address / hugePage * hugePage) :
    Canonical (page.start.value + 1 * PageSize.size2MiB.bytes) := by
  have startCanonical := start.start.canonical
  have finishCanonical := finish.start.canonical
  have after := containing_add_le high
  have before := le_containing low
  have huge : 1 * PageSize.size2MiB.bytes = hugePage := rfl
  have below : address / hugePage * hugePage ≤ address := Nat.div_mul_le_self _ _
  rw [Canonical] at startCanonical finishCanonical ⊢
  by_cases lowHalf : address < 2 ^ 47
  · omega
  · have upper : ¬ Crosses start.start.value finish.start.value := fun crosses =>
      lowHalf (inHalf crosses)
    rw [Crosses] at upper
    omega

theorem searchSpec_panic {limit start place : Nat}
    {outcome : Outcome Empty (Option (PageRange .size2MiB))} (panicked : outcome.IsPanic)
    (candidate : Candidate mapped start place) (before : place < limit)
    (earlier : ∀ other < place, Candidate mapped start other → ¬ RangeFree mapped other size)
    (outside : ¬ RangeFits mapped place size) :
    SearchSpec mapped limit start place size outcome where
  panics_iff := ⟨fun fine => absurd panicked fine,
    fun all => absurd (all place le_rfl candidate before earlier) outside⟩
  found := by
    rintro range rfl
    cases panicked

theorem candidate_next {origin : Nat} {page : Page .size2MiB} (above : origin ≤ start.start.value)
    (isMapped : mapped address) (low : start.start.value ≤ address)
    (here : page.start.value = address / hugePage * hugePage)
    (unmapped : ∀ earlier, start.start.value ≤ earlier → earlier < page.start.value →
      ¬ mapped earlier) (earlier : ∀ place < start.start.value, Candidate mapped origin place →
      ¬ RangeFree mapped place size) (used : ¬ RangeFree mapped start.start.value size) :
    Candidate mapped origin (page.start.value + hugePage) ∧
      ∀ place < page.start.value + hugePage, Candidate mapped origin place →
        place ≤ start.start.value ∧ ¬ RangeFree mapped place size := by
  refine ⟨Or.inr ⟨address, isMapped, above.trans low, by rw [here]⟩, fun place before isCandidate => ?_⟩
  have notAfter : place ≤ start.start.value := by
    by_contra after
    rcases isCandidate with rfl | ⟨other, otherMapped, -, rfl⟩
    · omega
    · obtain ⟨count, whole⟩ := start.aligned
      have bytes : PageSize.size2MiB.bytes = 2097152 := rfl
      rw [bytes] at whole
      rw [hugePage_eq] at before after here
      exact unmapped other (by omega) (by omega) otherMapped
  refine ⟨notAfter, ?_⟩
  rcases notAfter.eq_or_lt with rfl | strict
  · exact used
  · exact earlier place strict isCandidate

theorem findFrom_spec (top : lawful.TopUnmapped tables) {limit : Page .size2MiB} {origin count : Nat}
    (fuel : Nat) (start : Page .size2MiB) (enough : Mapper.pagesBetween start limit ≤ fuel)
    (above : origin ≤ start.start.value)
    (candidate : Candidate (lawful.Mapped tables) origin start.start.value)
    (earlier : ∀ place < start.start.value, Candidate (lawful.Mapped tables) origin place →
      ¬ RangeFree (lawful.Mapped tables) place (count * hugePage)) :
    SearchSpec (lawful.Mapped tables) limit.start.value origin start.start.value (count * hugePage)
      (mapper.findFrom tables count limit fuel start) := by
  induction fuel generalizing start with
  | zero => exact searchSpec_none (Mapper.le_of_pagesBetween enough)
  | succ fuel ih =>
    rw [Mapper.findFrom]
    split
    · next before =>
      by_cases fits : RangeFits (lawful.Mapped tables) start.start.value (count * hugePage)
      · obtain ⟨finish, finish_eq, value⟩ := Page.add_ok fits.1
        have scanned := isUnallocated_scanned top ⟨start, finish⟩
        simp only [value] at scanned
        rw [finish_eq, Outcome.ok_bind]
        generalize mapper.isUnallocated tables ⟨start, finish⟩ = outcome at scanned
        cases scanned with
        | free within unmapped =>
          refine ⟨⟨fun _ place low isCandidate _ none => ?_, fun _ => id⟩, fun range same => ?_⟩
          · rcases low.eq_or_lt with rfl | later
            · exact fits
            · exact absurd unmapped (none _ later candidate)
          · cases same
            exact ⟨le_rfl, value, unmapped⟩
        | @used page address isMapped low high inHalf here unmapped =>
          have used : ¬ RangeFree (lawful.Mapped tables) start.start.value (count * hugePage) :=
            fun none => none address low high isMapped
          obtain ⟨isCandidate, between⟩ := candidate_next above isMapped low here unmapped earlier used
          rw [← value] at high inHalf
          have nextCanonical := canonical_next low high inHalf
            (fun lowHalf => Nat.not_le.mp fun late => top address late lowHalf isMapped) here
          obtain ⟨next, next_eq, nextValue⟩ := Page.add_ok nextCanonical
          have nextValue : next.start.value = page.start.value + hugePage := by
            rw [nextValue, Nat.one_mul, hugePage]
          have later : start.start.value + hugePage ≤ next.start.value := by
            rw [nextValue, here]
            exact Nat.add_le_add_right (le_containing low) _
          have upward : start.start.value ≤ next.start.value := (Nat.le_add_right _ _).trans later
          rw [← nextValue] at isCandidate between
          have spec := ih next (Mapper.pagesBetween_le enough later) (above.trans upward) isCandidate
            fun place before isCandidate => (between place before isCandidate).2
          rw [Outcome.ok_bind]
          dsimp only
          rw [next_eq]
          refine ⟨spec.panics_iff.trans ⟨fun all place low isCandidate high none => ?_,
            fun all place low => all place (upward.trans low)⟩, fun range same => ?_⟩
          · by_cases before : place < next.start.value
            · have notAfter := (between place before isCandidate).1
              rw [le_antisymm notAfter low]
              exact fits
            · exact all place (Nat.not_lt.mp before) isCandidate high none
          · obtain ⟨low, finish, free⟩ := spec.found range same
            exact ⟨upward.trans low, finish, free⟩
        | left panicked crosses unmapped =>
          obtain ⟨address, low, high, isMapped⟩ := fits.2 crosses
          exact absurd isMapped (unmapped address low high)
      · exact searchSpec_panic (scan_isPanic top fits _) candidate before earlier fits
    · next after => exact searchSpec_none (Nat.not_lt.mp after)

def lastPage (start : Nat) : Nat := if start < 2 ^ 47 then 2 ^ 47 - hugePage else 2 ^ 64 - hugePage

theorem value_limit (start : Page .size2MiB) :
    (Mapper.limit start).start.value = lastPage start.start.value := by
  rw [Mapper.limit, lastPage]
  split <;> rw [Page.value_containingAddress] <;> rfl

theorem findUnallocatedPages_spec (top : lawful.TopUnmapped tables) (start : Page .size2MiB)
    (count : Nat) : (¬ (mapper.findUnallocatedPages tables start count).IsPanic ↔
      SearchFits (lawful.Mapped tables) (lastPage start.start.value) start.start.value
        (count * hugePage)) ∧
    ∀ range, mapper.findUnallocatedPages tables start count = .ok (some range) →
      start.start.value ≤ range.start.start.value ∧
      range.finish.start.value = range.start.start.value + count * hugePage ∧
      RangeFree (lawful.Mapped tables) range.start.start.value (count * hugePage) := by
  have above {place : Nat} (isCandidate : Candidate (lawful.Mapped tables) start.start.value place) :
      start.start.value ≤ place := by
    rcases isCandidate with rfl | ⟨address, -, low, rfl⟩
    · exact le_rfl
    · exact (le_containing low).trans (Nat.le_add_right _ _)
  have spec := @findFrom_spec _ _ mapper tables lawful top (Mapper.limit start) start.start.value
    count _ start le_rfl le_rfl (Or.inl rfl) fun place before isCandidate =>
      absurd (above isCandidate) (Nat.not_le.mpr before)
  refine ⟨spec.panics_iff.trans ⟨fun all place isCandidate => ?_, fun all place _ => ?_⟩, spec.found⟩
  · rw [← value_limit]
    exact all place (above isCandidate) isCandidate
  · rw [value_limit]
    exact all place

end Search

end Oak.Kernel
