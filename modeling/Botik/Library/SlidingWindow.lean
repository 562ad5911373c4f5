import Mathlib.Algebra.Order.Group.Defs
import Mathlib.Algebra.Order.Sub.Basic
import Mathlib.Data.List.DropRight
import Mathlib.Data.List.Induction
import Mathlib.Data.List.TakeWhile

/-!
# Sliding windows and recent entries

A queue of times from which the old ones are dropped at the front, whenever somebody looks. Where
the clock does not go back, what is left after a look are the times of the window. If every time is
admitted only while its window holds fewer than a limit, no window holds more than the limit.

A queue that takes every entry of a stream at its end and gives up entries at its front: all but the
last ones, or those that are too old when an entry comes in. Where the times of the stream do not go
back, what is left are the entries that are not much older than the newest one.

## Main definitions

* `SlidingWindow.expire` — drop the old times at the front
* `SlidingWindow.inWindow` — the times of a window
* `SlidingWindow.Tracks` — a queue from which only old times were dropped
* `RecentEntries.BoundedDeque` — a queue that holds at most so many entries
* `RecentEntries.recent` — the entries of a stream that are not much older than its newest one
* `RecentEntries.prune` — give up the old entries at the front
* `RecentEntries.pushRecent`, `RecentEntries.pushLast` — one entry more

## Main results

* `Tracks.expire_eq_filter` — after a look the times of the window are left
* `length_inWindow_concat_le` — one admitted time more
* `length_filter_le_one` — elements that exclude each other in a selection
* `BoundedDeque.items_foldl_append`, `foldl_pushRecent`, `foldl_pushLast` — what is left of a stream
-/

/-! ### Sliding windows -/

namespace SlidingWindow

variable {α : Type*} [AddCommGroup α] [LinearOrder α] {width now now' time t : α}
  {seen queue : List α}

/-- Drop the times at the front that are older than the width. -/
def expire (width now : α) (queue : List α) : List α :=
  queue.dropWhile fun time => width < now - time

/-- The times between `t - width` and `t`. -/
def inWindow (width t : α) (times : List α) : List α :=
  times.filter fun time => t - width ≤ time ∧ time ≤ t

/-- Dropping a front that is closed downwards is filtering. -/
theorem dropWhile_eq_filter {β : Type*} {p : β → Bool} {l : List β}
    (h : l.Pairwise fun a b => p b = true → p a = true) : l.dropWhile p = l.filter (!p ·) := by
  induction l with
  | nil => rfl
  | cons a l ih =>
    obtain ⟨hfirst, hrest⟩ := List.pairwise_cons.mp h
    by_cases ha : p a = true
    · rw [List.dropWhile_cons_of_pos ha, List.filter_cons_of_neg (by simp [ha]), ih hrest]
    · -- nothing behind the first one to keep is dropped
      rw [List.dropWhile_cons_of_neg ha, List.filter_eq_self.mpr]
      intro b hb
      rcases List.mem_cons.mp hb with rfl | hb
      · simp [ha]
      · have := mt (hfirst b hb) ha
        simp [this]

/-- The queue is what was seen, without some times that are older than the width. -/
structure Tracks (width now : α) (seen queue : List α) : Prop where
  sorted : seen.Pairwise (· ≤ ·)
  le_now : ∀ time ∈ seen, time ≤ now
  split : ∃ old, seen = old ++ queue ∧ ∀ time ∈ old, width < now - time

namespace Tracks

theorem nil : Tracks width now [] [] where
  sorted := List.Pairwise.nil
  le_now := by simp
  split := ⟨[], rfl, by simp⟩

theorem push (h : Tracks width now seen queue) :
    Tracks width now (seen ++ [now]) (queue ++ [now]) where
  sorted := List.pairwise_append.mpr ⟨h.sorted, List.pairwise_singleton _ _, by
    simpa using h.le_now⟩
  le_now := by
    intro time htime
    rcases List.mem_append.mp htime with hseen | hnew
    · exact h.le_now time hseen
    · exact (List.mem_singleton.mp hnew).le
  split := by
    obtain ⟨old, hsplit, hold⟩ := h.split
    exact ⟨old, by rw [hsplit, List.append_assoc], hold⟩

theorem expire (h : Tracks width now seen queue) :
    Tracks width now seen (expire width now queue) where
  sorted := h.sorted
  le_now := h.le_now
  split := by
    obtain ⟨old, hsplit, hold⟩ := h.split
    refine ⟨old ++ queue.takeWhile fun time => width < now - time, ?_, ?_⟩
    · rw [hsplit, SlidingWindow.expire, List.append_assoc, List.takeWhile_append_dropWhile]
    · intro time htime
      rcases List.mem_append.mp htime with htime | htime
      · exact hold time htime
      · have hdropped := List.mem_takeWhile_imp htime
        exact of_decide_eq_true hdropped

variable [IsOrderedAddMonoid α]

/-- Old times grow older. -/
theorem of_le (h : Tracks width now seen queue) (hle : now ≤ now') :
    Tracks width now' seen queue where
  sorted := h.sorted
  le_now time htime := (h.le_now time htime).trans hle
  split := by
    obtain ⟨old, hsplit, hold⟩ := h.split
    exact ⟨old, hsplit, fun time htime =>
      (hold time htime).trans_le (sub_le_sub_right hle time)⟩

/-- After a look the times of the window are left. -/
theorem expire_eq_filter (h : Tracks width now seen queue) :
    SlidingWindow.expire width now queue = inWindow width now seen := by
  obtain ⟨old, hsplit, hold⟩ := h.split
  have hsorted := h.sorted
  rw [hsplit] at hsorted
  have hfront : SlidingWindow.expire width now queue =
      queue.filter fun time => !decide (width < now - time) := by
    refine dropWhile_eq_filter ((List.pairwise_append.mp hsorted).2.1.imp ?_)
    intro a b hab hb
    exact decide_eq_true ((of_decide_eq_true hb).trans_le (sub_le_sub_left hab now))
  have hnone : inWindow width now old = [] := by
    refine List.filter_eq_nil_iff.mpr fun time htime => ?_
    have hlt := hold time htime
    simp only [decide_eq_true_eq, not_and_or, not_le]
    exact Or.inl (lt_sub_comm.mp hlt)
  unfold inWindow at hnone ⊢
  rw [hfront, hsplit, List.filter_append, hnone, List.nil_append]
  refine List.filter_congr fun time htime => ?_
  have hle : time ≤ now := h.le_now time (hsplit ▸ List.mem_append_right old htime)
  simp only [hle, and_true, ← not_lt, decide_not, lt_sub_comm]

end Tracks

/-- Of a list whose elements exclude each other in a selection, the selection takes at most one. -/
theorem length_filter_le_one {β : Type*} {R : β → β → Prop} {p : β → Bool} {l : List β}
    (hl : l.Pairwise R) (h : ∀ a b, R a b → p a = true → p b = true → False) :
    (l.filter p).length ≤ 1 := by
  induction l with
  | nil => exact Nat.zero_le 1
  | cons a l ih =>
    obtain ⟨hfirst, hrest⟩ := List.pairwise_cons.mp hl
    by_cases ha : p a = true
    · have hnone : l.filter p = [] :=
        List.filter_eq_nil_iff.mpr fun b hb hpb => h a b (hfirst b hb) ha hpb
      rw [List.filter_cons_of_pos ha, hnone]
      exact le_rfl
    · rw [List.filter_cons_of_neg ha]
      exact ih hrest

variable [IsOrderedAddMonoid α]

/-- Of the times seen at an earlier look, a later window holds no more than the window of the
look. -/
theorem length_inWindow_le_of_le (hle : now ≤ t) (hseen : ∀ s ∈ seen, s ≤ now) :
    (inWindow width t seen).length ≤ (inWindow width now seen).length := by
  unfold inWindow
  rw [← List.countP_eq_length_filter, ← List.countP_eq_length_filter]
  refine List.countP_mono_left fun s hs hin => ?_
  rw [decide_eq_true_eq] at hin ⊢
  exact ⟨(sub_le_sub_right hle width).trans hin.1, hseen s hs⟩

/-- One time more, admitted while the window of an earlier look held fewer than the limit: a window
that held at most the limit still does. -/
theorem length_inWindow_concat_le {limit : ℕ} (hle : now ≤ time) (hseen : ∀ s ∈ seen, s ≤ now)
    (hadmitted : (inWindow width now seen).length < limit)
    (hwindow : (inWindow width t seen).length ≤ limit) :
    (inWindow width t (seen ++ [time])).length ≤ limit := by
  have hsplit : inWindow width t (seen ++ [time]) =
      inWindow width t seen ++ inWindow width t [time] := List.filter_append _ _
  rw [hsplit, List.length_append]
  by_cases hin : t - width ≤ time ∧ time ≤ t
  · have hold : (inWindow width t seen).length ≤ (inWindow width now seen).length :=
      length_inWindow_le_of_le (hle.trans hin.2) hseen
    have hone : (inWindow width t [time]).length ≤ 1 := List.length_filter_le _ _
    omega
  · have hnone : inWindow width t [time] = [] :=
      List.filter_eq_nil_iff.mpr fun s hs => by
        rw [List.mem_singleton.mp hs]
        simpa using hin
    rw [hnone]
    exact hwindow

end SlidingWindow

/-! ### The recent entries of a stream -/

namespace RecentEntries

variable {α β : Type*}

/-! ### The last entries -/

section Last

variable {n : ℕ} {l m : List β} {p : β → Bool}

theorem rtake_append_of_le (h : n ≤ m.length) : (l ++ m).rtake n = m.rtake n := by
  have hskip : (l ++ m).length - n = l.length + (m.length - n) := by
    rw [List.length_append]
    omega
  rw [List.rtake, hskip, List.drop_length_add_append, List.rtake]

theorem rtake_of_length_le (h : l.length ≤ n) : l.rtake n = l := by
  rw [List.rtake, Nat.sub_eq_zero_of_le h, List.drop_zero]

theorem length_rtake : (l.rtake n).length = min n l.length := by
  rw [List.rtake, List.length_drop]
  omega

/-- What was given up before does not matter. -/
theorem rtake_rtake_append : (l.rtake n ++ m).rtake n = (l ++ m).rtake n := by
  rcases le_total l.length n with hshort | hlong
  · rw [rtake_of_length_le hshort]
  · have hfull : n ≤ (l.rtake n ++ m).length := by
      rw [List.length_append, length_rtake]
      omega
    have hsplit : l.take (l.length - n) ++ l.rtake n = l := List.take_append_drop _ _
    calc (l.rtake n ++ m).rtake n
        = (l.take (l.length - n) ++ (l.rtake n ++ m)).rtake n := (rtake_append_of_le hfull).symm
      _ = (l ++ m).rtake n := by rw [← List.append_assoc, hsplit]

/-- The last of the entries that are kept, where an entry is kept with everything behind it. -/
theorem filter_rtake (h : l.Pairwise fun a b => p a = true → p b = true) :
    (l.rtake n).filter p = (l.filter p).rtake n := by
  induction l using List.reverseRecOn generalizing n with
  | nil => simp
  | append_singleton l a ih =>
    obtain ⟨hfront, -, hlast⟩ := List.pairwise_append.mp h
    cases n with
    | zero => simp
    | succ n =>
      rw [List.rtake_concat_succ, List.filter_append, List.filter_append, ih hfront]
      by_cases ha : p a = true
      · rw [List.filter_cons_of_pos ha, List.filter_nil, List.rtake_concat_succ]
      · -- nothing before it is kept either
        have hnone : l.filter p = [] := List.filter_eq_nil_iff.mpr fun b hb hpb =>
          ha (hlast b hb a (List.mem_singleton_self a) hpb)
        rw [hnone, List.filter_cons_of_neg ha, List.filter_nil, List.rtake_nil, List.append_nil,
          List.rtake_nil]

end Last

/-- A queue that holds at most `maxlen` entries: a new one pushes out the oldest. -/
structure BoundedDeque (β : Type*) where
  maxlen : ℕ
  items : List β
  length_le : items.length ≤ maxlen

namespace BoundedDeque

/-- The queue without entries. -/
def empty (maxlen : ℕ) : BoundedDeque β := ⟨maxlen, [], Nat.zero_le maxlen⟩

/-- One entry more. -/
def append (d : BoundedDeque β) (e : β) : BoundedDeque β where
  maxlen := d.maxlen
  items := (d.items ++ [e]).rtake d.maxlen
  length_le := by
    rw [length_rtake]
    exact min_le_left _ _

/-- What is left of a stream: its last entries. -/
theorem items_foldl_append (d : BoundedDeque β) (l : List β) :
    (l.foldl append d).items = (d.items ++ l).rtake d.maxlen := by
  induction l generalizing d with
  | nil => rw [List.foldl_nil, List.append_nil, rtake_of_length_le d.length_le]
  | cons e l ih =>
    rw [List.foldl_cons, ih]
    calc ((d.append e).items ++ l).rtake d.maxlen
        = (d.items ++ [e] ++ l).rtake d.maxlen := rtake_rtake_append
      _ = (d.items ++ e :: l).rtake d.maxlen := by rw [List.append_assoc, List.singleton_append]

end BoundedDeque

/-! ### The entries that are not too old -/

section Age

variable [AddCommGroup α] [LinearOrder α] {time : β → α} {width now : α} {e : β}
  {entries queue : List β} {limit : ℕ}

/-- The entries that are at most `width` older than the newest one. -/
def recent (time : β → α) (width : α) (entries : List β) : List β :=
  entries.filter fun e => ∀ newer ∈ entries, time newer - time e ≤ width

/-- Give up the entries at the front that are older than `width`. -/
def prune (time : β → α) (width now : α) (queue : List β) : List β :=
  queue.dropWhile fun e => width < now - time e

/-- Take an entry and give up the old ones. -/
def pushRecent (time : β → α) (width : α) (queue : List β) (e : β) : List β :=
  prune time width (time e) (queue ++ [e])

/-- Take an entry, and give up all but the last `limit` entries and then the old ones. -/
def pushLast (time : β → α) (width : α) (limit : ℕ) (queue : List β) (e : β) : List β :=
  prune time width (time e) ((queue ++ [e]).rtake limit)

/-- The times do not go back. -/
def Ordered (time : β → α) (entries : List β) : Prop :=
  entries.Pairwise fun a b => time a ≤ time b

theorem recent_sublist : (recent time width entries).Sublist entries := List.filter_sublist

variable [IsOrderedAddMonoid α]

theorem prune_eq_filter (h : Ordered time queue) :
    prune time width now queue = queue.filter fun e => now - time e ≤ width := by
  have hfront : prune time width now queue =
      queue.filter fun e => !decide (width < now - time e) := by
    refine SlidingWindow.dropWhile_eq_filter (h.imp fun {a b} hab hb => ?_)
    exact decide_eq_true ((of_decide_eq_true hb).trans_le (sub_le_sub_left hab now))
  rw [hfront]
  refine List.filter_congr fun a _ => ?_
  rw [← decide_not, decide_eq_decide, not_lt]

/-- Behind a stream that ends with its newest entry the age is that against the last one. -/
theorem recent_concat (h : Ordered time (entries ++ [e])) :
    recent time width (entries ++ [e]) =
      (entries ++ [e]).filter fun a => time e - time a ≤ width := by
  have hlast : ∀ newer ∈ entries ++ [e], time newer ≤ time e := by
    intro newer hnewer
    rcases List.mem_append.mp hnewer with hold | hnew
    · exact (List.pairwise_append.mp h).2.2 newer hold e (List.mem_singleton_self e)
    · rw [List.mem_singleton.mp hnew]
  refine List.filter_congr fun a _ => ?_
  rw [decide_eq_decide]
  constructor
  · intro hall
    exact hall e (List.mem_append_right _ (List.mem_singleton_self e))
  · intro hle newer hnewer
    exact (sub_le_sub_right (hlast newer hnewer) (time a)).trans hle

/-- The recent entries stay the recent ones. -/
theorem pushRecent_recent (h : Ordered time (entries ++ [e])) :
    pushRecent time width (recent time width entries) e = recent time width (entries ++ [e]) := by
  have hsub : (recent time width entries ++ [e]).Sublist (entries ++ [e]) :=
    recent_sublist.append_right [e]
  rw [pushRecent, prune_eq_filter (h.sublist hsub), recent_concat h, List.filter_append,
    List.filter_append, recent, List.filter_filter]
  congr 1
  refine List.filter_congr fun a _ => ?_
  -- what is recent after the entry was recent before it
  have hbefore : time e - time a ≤ width → ∀ newer ∈ entries, time newer - time a ≤ width := by
    intro hle newer hnewer
    have hnewest := (List.pairwise_append.mp h).2.2 newer hnewer e (List.mem_singleton_self e)
    exact (sub_le_sub_right hnewest (time a)).trans hle
  by_cases hle : time e - time a ≤ width
  · rw [decide_eq_true hle, decide_eq_true (hbefore hle), Bool.and_self]
  · rw [decide_eq_false hle, Bool.false_and]

theorem pushLast_eq (h : Ordered time (queue ++ [e])) :
    pushLast time width limit (queue.rtake limit) e =
      (pushRecent time width queue e).rtake limit := by
  have hsub : ((queue ++ [e]).rtake limit).Sublist (queue ++ [e]) := List.drop_sublist _ _
  rw [pushLast, rtake_rtake_append, prune_eq_filter (h.sublist hsub), pushRecent,
    prune_eq_filter h]
  refine filter_rtake (h.imp fun {a b} hab ha => ?_)
  exact decide_eq_true ((sub_le_sub_left hab (time e)).trans (of_decide_eq_true ha))

/-- What is left of a stream: its recent entries. -/
theorem foldl_pushRecent (h : Ordered time entries) :
    entries.foldl (pushRecent time width) [] = recent time width entries := by
  induction entries using List.reverseRecOn with
  | nil => rfl
  | append_singleton entries e ih =>
    rw [List.foldl_append, List.foldl_cons, List.foldl_nil, ih (List.pairwise_append.mp h).1,
      pushRecent_recent h]

/-- What is left of a stream: the last of its recent entries. -/
theorem foldl_pushLast (h : Ordered time entries) :
    entries.foldl (pushLast time width limit) [] = (recent time width entries).rtake limit := by
  induction entries using List.reverseRecOn with
  | nil => exact (List.rtake_nil _).symm
  | append_singleton entries e ih =>
    have hrecent : Ordered time (recent time width entries ++ [e]) :=
      h.sublist (recent_sublist.append_right [e])
    rw [List.foldl_append, List.foldl_cons, List.foldl_nil, ih (List.pairwise_append.mp h).1,
      pushLast_eq hrecent, pushRecent_recent h]

end Age

end RecentEntries
