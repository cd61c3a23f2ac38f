import Catena.State

/-!
# Windows

The part of a buffer that is still to be consumed. What lies outside it can be told apart by no
slice and no item taken inside it: `rest_skip`, `rest_clip`, `slice_eq` and `item?_eq` give every
reading of a window as a reading of its rest.
-/

namespace Catena

namespace Sequence

variable {α : Type}

theorem offset_of_nonneg {n : Nat} {i : Int} (h : 0 ≤ i) : offset n i = i.toNat :=
  if_neg (Int.not_lt.mpr h)

theorem cut_of_nonneg {β : Type} {lo hi : Int} (items : Array β) (hlo : 0 ≤ lo) (hhi : 0 ≤ hi) :
    cut lo hi items = items.extract lo.toNat hi.toNat := by
  rw [cut, offset_of_nonneg hlo, offset_of_nonneg hhi]

theorem cut_cut {β : Type} {pos limit lo hi : Int} (items : Array β) (hpos : 0 ≤ pos)
    (hlo : 0 ≤ lo) (hhi : 0 ≤ hi) (inside : pos + hi ≤ limit) :
    cut lo hi (cut pos limit items) = cut (pos + lo) (pos + hi) items := by
  rw [cut_of_nonneg items hpos (by omega), cut_of_nonneg _ hlo hhi,
    cut_of_nonneg items (by omega) (by omega), Array.extract_extract]
  congr 1 <;> omega

theorem slice_slice (s : Sequence α) {pos limit lo hi : Int} (hpos : 0 ≤ pos) (hlo : 0 ≤ lo)
    (hhi : 0 ≤ hi) (inside : pos + hi ≤ limit) :
    (s.slice pos limit).slice lo hi = s.slice (pos + lo) (pos + hi) := by
  cases s <;> simp only [slice, cut_cut _ hpos hlo hhi inside]

theorem size_cut {β : Type} {lo hi : Int} (items : Array β) (hlo : 0 ≤ lo) (order : lo ≤ hi)
    (bound : hi ≤ items.size) : ((cut lo hi items).size : Int) = hi - lo := by
  rw [cut_of_nonneg items hlo (by omega), Array.size_extract]
  omega

theorem length_slice (s : Sequence α) {lo hi : Int} (hlo : 0 ≤ lo) (order : lo ≤ hi)
    (bound : hi ≤ s.length) : ((s.slice lo hi).length : Int) = hi - lo := by
  cases s <;> exact size_cut _ hlo order bound

theorem slice_self (s : Sequence α) (pos : Int) : s.slice pos pos = s.empty := by
  have none : ∀ {β : Type} (items : Array β), cut pos pos items = #[] :=
    fun items => Array.extract_empty_of_stop_le_start (Nat.le_refl _)
  cases s <;> simp only [slice, empty, none]

theorem slice_zero_length (s : Sequence α) : s.slice 0 s.length = s := by
  have whole : ∀ {β : Type} (items : Array β), cut 0 items.size items = items := fun items => by
    rw [cut_of_nonneg items (Int.le_refl 0) (Int.natCast_nonneg _)]
    exact Array.extract_size
  cases s <;> simp only [slice, length, whole]

theorem empty_eq_of_kind {s t : Sequence α} (h : s.kind = t.kind) : s.empty = t.empty := by
  cases s <;> cases t <;> first | rfl | exact absurd h (by simp [kind])

/-! ### Items -/

theorem item?_of_nonneg (s : Buffer) {i : Int} (h : 0 ≤ i) :
    s.item? i = match s with
      | .text cs => cs[i.toNat]?.map fun c => .seq (.text #[c])
      | .bytes bs => bs[i.toNat]?.map fun b => .int b.toNat
      | .list xs => xs[i.toNat]? := by
  cases s <;> simp only [item?, if_pos h]

theorem getElem?_cut {β : Type} {pos limit i : Int} (items : Array β) (hpos : 0 ≤ pos)
    (hi : 0 ≤ i) (inside : pos + i < limit) :
    (cut pos limit items)[i.toNat]? = items[(pos + i).toNat]? := by
  rw [cut_of_nonneg items hpos (by omega), Array.getElem?_extract, Int.toNat_add hpos hi]
  split
  · rfl
  · exact (Array.getElem?_eq_none (by omega)).symm

theorem item?_slice (s : Buffer) {pos limit i : Int} (hpos : 0 ≤ pos) (hi : 0 ≤ i)
    (inside : pos + i < limit) : (s.slice pos limit).item? i = s.item? (pos + i) := by
  rw [item?_of_nonneg _ hi, item?_of_nonneg _ (by omega)]
  cases s <;> simp only [slice, getElem?_cut _ hpos hi inside]

theorem item?_isSome (s : Buffer) {i : Int} (hi : 0 ≤ i) (inside : i < s.length) :
    ∃ v, s.item? i = some v := by
  have found : ∀ {β : Type} (items : Array β), i < items.size → ∃ x, items[i.toNat]? = some x :=
    fun items bound => ⟨_, Array.getElem?_eq_getElem (by omega)⟩
  rw [item?_of_nonneg _ hi]
  cases s with
  | text cs =>
    obtain ⟨c, hc⟩ := found cs inside
    exact ⟨.seq (.text #[c]), by simp only [hc, Option.map_some]⟩
  | bytes bs =>
    obtain ⟨b, hb⟩ := found bs inside
    exact ⟨.int b.toNat, by simp only [hb, Option.map_some]⟩
  | list xs => exact found xs inside

/-! ### Suffixes -/

def IsSuffix (s t : Sequence α) : Prop :=
  ∃ front : Sequence α, front.append? s = some t

theorem empty_append? {s t : Sequence α} (h : s.kind = t.kind) : s.empty.append? t = some t := by
  cases s <;> cases t <;> cases h <;> simp only [empty, append?, Array.empty_append]

theorem isSuffix_refl (s : Sequence α) : s.IsSuffix s :=
  ⟨s.empty, empty_append? rfl⟩

theorem append?_assoc {s t u a b : Sequence α} (first : a.append? t = some u)
    (second : b.append? s = some t) : ∃ c, a.append? b = some c ∧ c.append? s = some u := by
  cases s <;> cases b <;> simp only [append?, Option.some.injEq, reduceCtorEq] at second <;>
    subst second <;> cases a <;> simp only [append?, Option.some.injEq, reduceCtorEq] at first <;>
    subst first
  case text s b a => exact ⟨.text (a ++ b), rfl, by simp only [append?, Array.append_assoc]⟩
  case bytes s b a => exact ⟨.bytes (a ++ b), rfl, by simp only [append?, Array.append_assoc]⟩
  case list s b a => exact ⟨.list (a ++ b), rfl, by simp only [append?, Array.append_assoc]⟩

theorem isSuffix_trans {s t u : Sequence α} (hst : s.IsSuffix t) (htu : t.IsSuffix u) :
    s.IsSuffix u := by
  obtain ⟨a, ha⟩ := hst
  obtain ⟨b, hb⟩ := htu
  obtain ⟨c, -, hc⟩ := append?_assoc hb ha
  exact ⟨c, hc⟩

theorem cut_append_cut {β : Type} {lo mid hi : Int} (items : Array β) (hlo : 0 ≤ lo)
    (first : lo ≤ mid) (last : mid ≤ hi) : cut lo mid items ++ cut mid hi items = cut lo hi items := by
  rw [cut_of_nonneg items hlo (by omega), cut_of_nonneg items (by omega) (by omega),
    cut_of_nonneg items hlo (by omega), Array.extract_append_extract,
    show min lo.toNat mid.toNat = lo.toNat by omega, show max mid.toNat hi.toNat = hi.toNat by omega]

theorem slice_append?_slice (s : Sequence α) {lo mid hi : Int} (hlo : 0 ≤ lo) (first : lo ≤ mid)
    (last : mid ≤ hi) : (s.slice lo mid).append? (s.slice mid hi) = some (s.slice lo hi) := by
  cases s <;> simp only [slice, append?, cut_append_cut _ hlo first last]

theorem slice_isSuffix (s : Sequence α) {k : Int} (hk : 0 ≤ k) (bound : k ≤ s.length) :
    (s.slice k s.length).IsSuffix s := by
  refine ⟨s.slice 0 k, ?_⟩
  rw [slice_append?_slice s (Int.le_refl 0) hk bound, slice_zero_length]

/-! ### What sequences are joined from -/

section Joined

variable {front back whole : Sequence α}

theorem length_of_append? (h : front.append? back = some whole) :
    whole.length = front.length + back.length := by
  cases front <;> cases back <;> simp only [append?, Option.some.injEq, reduceCtorEq] at h <;>
    subst h <;> exact Array.size_append

theorem cut_append_left {β : Type} (a b : Array β) : cut 0 a.size (a ++ b) = a := by
  rw [cut_of_nonneg _ (Int.le_refl 0) (Int.natCast_nonneg _)]
  simp

theorem cut_append_right {β : Type} (a b : Array β) : cut a.size (a ++ b).size (a ++ b) = b := by
  rw [cut_of_nonneg _ (Int.natCast_nonneg _) (Int.natCast_nonneg _), Int.toNat_natCast,
    Int.toNat_natCast, Array.extract_append]
  simp

theorem eq_slice_of_append? (h : front.append? back = some whole) :
    front = whole.slice 0 front.length ∧ back = whole.slice front.length whole.length := by
  cases front <;> cases back <;> simp only [append?, Option.some.injEq, reduceCtorEq] at h <;>
    subst h <;> simp only [slice, length, cut_append_left, cut_append_right, and_self]

end Joined

theorem length_le_of_isSuffix {s t : Sequence α} (h : s.IsSuffix t) : s.length ≤ t.length := by
  obtain ⟨front, joined⟩ := h
  exact length_of_append? joined ▸ Nat.le_add_left _ _

theorem eq_slice_of_isSuffix {s t : Sequence α} (h : s.IsSuffix t) :
    s = t.slice (t.length - s.length) t.length := by
  obtain ⟨front, joined⟩ := h
  have length := length_of_append? joined
  rw [show (t.length - s.length : Int) = front.length by omega]
  exact (eq_slice_of_append? joined).2

end Sequence

structure Window where
  source : Buffer
  pos : Int
  limit : Int

def State.window (s : State) : Window :=
  ⟨s.source, s.pos, s.limit⟩

namespace Window

def rest (w : Window) : Buffer :=
  w.source.slice w.pos w.limit

def remaining (w : Window) : Int :=
  w.limit - w.pos

def Inside (w : Window) : Prop :=
  0 ≤ w.pos ∧ w.pos ≤ w.limit ∧ w.limit ≤ w.source.length

def skip (w : Window) (k : Int) : Window :=
  { w with pos := w.pos + k }

def clip (w : Window) (k : Int) : Window :=
  { w with limit := w.pos + k }

def fresh (w : Window) : Window :=
  ⟨w.rest, 0, w.rest.length⟩

variable {w : Window} {k lo hi : Int}

theorem length_rest (h : w.Inside) : (w.rest.length : Int) = w.remaining :=
  Sequence.length_slice _ h.1 h.2.1 h.2.2

theorem remaining_nonneg (h : w.Inside) : 0 ≤ w.remaining :=
  Int.sub_nonneg_of_le h.2.1

theorem inside_skip (h : w.Inside) (hk : 0 ≤ k) (bound : k ≤ w.remaining) : (w.skip k).Inside := by
  obtain ⟨hpos, _, hlimit⟩ := h
  simp only [remaining] at bound
  exact ⟨by simp only [skip]; omega, by simp only [skip]; omega, hlimit⟩

theorem inside_clip (h : w.Inside) (hk : 0 ≤ k) (bound : k ≤ w.remaining) : (w.clip k).Inside := by
  obtain ⟨hpos, _, hlimit⟩ := h
  simp only [remaining] at bound
  exact ⟨hpos, by simp only [clip]; omega, by simp only [clip]; omega⟩

theorem inside_fresh (w : Window) : w.fresh.Inside :=
  ⟨Int.le_refl 0, Int.natCast_nonneg _, Int.le_refl _⟩

theorem rest_fresh (w : Window) : w.fresh.rest = w.rest :=
  Sequence.slice_zero_length _

/-! ### Readings of a window as readings of its rest -/

theorem slice_eq (h : w.Inside) (hlo : 0 ≤ lo) (hhi : 0 ≤ hi) (bound : hi ≤ w.remaining) :
    w.source.slice (w.pos + lo) (w.pos + hi) = w.rest.slice lo hi := by
  simp only [remaining] at bound
  exact (Sequence.slice_slice _ h.1 hlo hhi (by omega)).symm

theorem item?_eq (h : w.Inside) (hk : 0 ≤ k) (bound : k < w.remaining) :
    w.source.item? (w.pos + k) = w.rest.item? k := by
  simp only [remaining] at bound
  exact (Sequence.item?_slice _ h.1 hk (by omega)).symm

theorem rest_skip (h : w.Inside) (hk : 0 ≤ k) :
    (w.skip k).rest = w.rest.slice k w.remaining := by
  rw [← slice_eq h hk (remaining_nonneg h) (Int.le_refl _),
    show w.pos + w.remaining = w.limit by simp only [remaining]; omega]
  rfl

theorem rest_clip (h : w.Inside) (hk : 0 ≤ k) (bound : k ≤ w.remaining) :
    (w.clip k).rest = w.rest.slice 0 k := by
  rw [← slice_eq h (Int.le_refl 0) hk bound, Int.add_zero]
  rfl

theorem rest_skip_isSuffix (h : w.Inside) (hk : 0 ≤ k) (bound : k ≤ w.remaining) :
    (w.skip k).rest.IsSuffix w.rest := by
  rw [rest_skip h hk, ← length_rest h]
  exact Sequence.slice_isSuffix _ hk (by rw [length_rest h]; exact bound)

/-! ### Windows with the same items -/

/-- Two windows in their buffers, with the same items still to be consumed. -/
structure Same (a b : Window) : Prop where
  left : a.Inside
  right : b.Inside
  rest : a.rest = b.rest

namespace Same

variable {a b : Window}

theorem refl (h : w.Inside) : Same w w := ⟨h, h, rfl⟩

theorem remaining (h : Same a b) : a.remaining = b.remaining := by
  rw [← length_rest h.left, ← length_rest h.right, h.rest]

theorem kind (h : Same a b) : a.source.kind = b.source.kind := by
  have same := congrArg Sequence.kind h.rest
  rwa [Window.rest, Window.rest, Sequence.kind_slice, Sequence.kind_slice] at same

theorem slice (h : Same a b) (hlo : 0 ≤ lo) (hhi : 0 ≤ hi) (bound : hi ≤ a.remaining) :
    a.source.slice (a.pos + lo) (a.pos + hi) = b.source.slice (b.pos + lo) (b.pos + hi) := by
  rw [slice_eq h.left hlo hhi bound, slice_eq h.right hlo hhi (h.remaining ▸ bound), h.rest]

theorem item? (h : Same a b) (hk : 0 ≤ k) (bound : k < a.remaining) :
    a.source.item? (a.pos + k) = b.source.item? (b.pos + k) := by
  rw [item?_eq h.left hk bound, item?_eq h.right hk (h.remaining ▸ bound), h.rest]

theorem skip (h : Same a b) (hk : 0 ≤ k) (bound : k ≤ a.remaining) :
    Same (a.skip k) (b.skip k) where
  left := inside_skip h.left hk bound
  right := inside_skip h.right hk (h.remaining ▸ bound)
  rest := by rw [rest_skip h.left hk, rest_skip h.right hk, h.rest, h.remaining]

theorem clip (h : Same a b) (hk : 0 ≤ k) (bound : k ≤ a.remaining) :
    Same (a.clip k) (b.clip k) where
  left := inside_clip h.left hk bound
  right := inside_clip h.right hk (h.remaining ▸ bound)
  rest := by
    rw [rest_clip h.left hk bound, rest_clip h.right hk (h.remaining ▸ bound), h.rest]

theorem fresh (h : Same a b) : Same a.fresh b.fresh where
  left := inside_fresh a
  right := inside_fresh b
  rest := by rw [rest_fresh, rest_fresh, h.rest]

end Same

end Window

end Catena
