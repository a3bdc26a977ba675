import Mathlib.Data.List.Infix

/-!
# Go strings and the first-occurrence search of `strings.Index`

A Go `string` is an immutable sequence of bytes, and `strings.Index`, `strings.HasPrefix` and the
slices `s[:pos]`, `s[pos+k:]` all count bytes. Strings are therefore modelled as `List UInt8`;
the literals of the source are ASCII and enter through `ascii`.

The generated log extractors are chains of two kinds of step: "take until `delim`" and "skip the
literal prefix". Both are defined here, with the one fact every later proof uses: when the
delimiter cannot overlap itself (its first byte does not recur in it), "take until" splits a
string at `a ++ delim ++ r` exactly when `delim` does not occur inside `a`.
-/

namespace Microkube.GoStrings

abbrev GoString := List UInt8

def ascii (s : String) : GoString := s.toList.map Char.toUInt8

def hasPrefix (s pre : GoString) : Bool := pre.isPrefixOf s

/-- `strings.Index(s, sep)`: the least offset at which `sep` occurs in `s`; `none` is Go's `-1`. -/
def index (s sep : GoString) : Option Nat :=
  if sep.isPrefixOf s then some 0 else
    match s with
    | [] => none
    | _ :: t => (index t sep).map (· + 1)

/-- One "Take until `delim`" step of the generated extractors: `pos = strings.Index(p.rest, delim)`,
then the field is `p.rest[:pos]` and the new rest is `p.rest[pos+len(delim):]`. -/
def takeUntil (rest delim : GoString) : Option (GoString × GoString) :=
  (index rest delim).map fun pos => (rest.take pos, rest.drop (pos + delim.length))

/-- One "Checks if the rest starts with `lit` and pass it" step: `p.rest = p.rest[len(lit):]`. -/
def skipPrefix (rest lit : GoString) : Option GoString :=
  if hasPrefix rest lit then some (rest.drop lit.length) else none

/-- A Go run-time panic raised by the modelled string operations: `runtime error: index out of
range [index] with length length`. -/
inductive GoPanic
  | indexOutOfRange (index length : Nat)
  deriving DecidableEq, Repr

/-- Go's index expression `s[i]` on a string: the byte at offset `i`, or a run-time panic. -/
def byteAt (s : GoString) (i : Nat) : Except GoPanic UInt8 :=
  match s.get? i with
  | some b => .ok b
  | none => .error (.indexOutOfRange i s.length)

/-- `strings.Trim(s, cutset)` for an ASCII cutset: drop leading and trailing cutset bytes. -/
def trim (s cutset : GoString) : GoString :=
  ((s.dropWhile (· ∈ cutset)).reverse.dropWhile (· ∈ cutset)).reverse

/-- A delimiter whose first byte does not recur in it, so two of its occurrences never overlap.
Every delimiter of the generated extractors has this shape. -/
def Delimiter (d : GoString) : Prop := ∃ c t, d = c :: t ∧ c ∉ t

variable {s d a r : GoString} {i : Nat}

@[simp] theorem hasPrefix_iff : hasPrefix s d = true ↔ d <+: s := by
  simp [hasPrefix]

theorem skipPrefix_eq_some : skipPrefix s d = some r ↔ s = d ++ r := by
  unfold skipPrefix
  by_cases h : d <+: s
  · obtain ⟨u, rfl⟩ := h
    simp
  · simp only [hasPrefix_iff, h, if_false, reduceCtorEq, false_iff]
    rintro rfl
    exact h (List.prefix_append d r)

/-- What `strings.Index` returns: an offset where `d` occurs, and no occurrence of a nonempty `d`
lies wholly before it. -/
theorem index_eq_some (hd : d ≠ []) (h : index s d = some i) :
    d <+: s.drop i ∧ ¬ d <:+: s.take i := by
  induction s generalizing i with
  | nil =>
    unfold index at h
    split_ifs at h with hp
    simp [hd] at hp
  | cons c t ih =>
    unfold index at h
    split_ifs at h with hp
    · cases h
      simpa [hd] using hp
    · obtain ⟨j, hj, rfl⟩ := Option.map_eq_some'.mp h
      obtain ⟨hpre, hno⟩ := ih hj
      refine ⟨hpre, ?_⟩
      rw [List.take_succ_cons, List.infix_cons_iff]
      rintro (hc | hc)
      · exact hp (by simpa using hc.trans (List.cons_prefix_cons.mpr ⟨rfl, List.take_prefix j t⟩))
      · exact hno hc

/-- A delimiter not occurring in `a` is found right after `a`: a straddling occurrence would put
its first byte inside its own tail. -/
theorem index_append_delimiter (hd : Delimiter d) (ha : ¬ d <:+: a) :
    index (a ++ d ++ r) d = some a.length := by
  obtain ⟨c, t, rfl, hc⟩ := hd
  rw [List.append_assoc]
  induction a with
  | nil => simp [index]
  | cons x a ih =>
    have hnot : ¬ (c :: t) <+: x :: (a ++ (c :: t ++ r)) := by
      rw [List.cons_prefix_cons]
      rintro ⟨rfl, ht⟩
      rcases List.prefix_or_prefix_of_prefix ht (List.prefix_append a _) with h | ⟨u, rfl⟩
      · exact ha (List.cons_prefix_cons.mpr ⟨rfl, h⟩).isInfix
      · rcases u with _ | ⟨y, u⟩
        · exact ha (by simp)
        · have hy := (List.prefix_append_right_inj a).mp ht
          simp only [List.cons_append, List.cons_prefix_cons] at hy
          exact hc (by simp [hy.1])
    have ih' := ih (fun h => ha (List.infix_cons h))
    rw [List.cons_append, index, if_neg (by simpa using hnot)]
    simp only [ih', Option.map_some', List.length_cons]

theorem takeUntil_eq_some (hd : Delimiter d) :
    takeUntil s d = some (a, r) ↔ s = a ++ d ++ r ∧ ¬ d <:+: a := by
  have hne : d ≠ [] := by obtain ⟨c, t, rfl, -⟩ := hd; simp
  constructor
  · intro h
    obtain ⟨i, hi, hs⟩ := Option.map_eq_some'.mp h
    obtain ⟨hpre, hno⟩ := index_eq_some hne hi
    simp only [Prod.mk.injEq] at hs
    obtain ⟨rfl, rfl⟩ := hs
    refine ⟨?_, hno⟩
    obtain ⟨u, hu⟩ := hpre
    have hu' : s.drop (i + d.length) = u := by
      rw [← List.drop_drop, ← hu, List.drop_left]
    rw [hu', List.append_assoc, hu, List.take_append_drop]
  · rintro ⟨rfl, ha⟩
    have hi := index_append_delimiter (r := r) hd ha
    rw [List.append_assoc] at hi
    simp [takeUntil, hi, List.drop_append]

@[simp] theorem skipPrefix_append : skipPrefix (d ++ r) d = some r :=
  skipPrefix_eq_some.mpr rfl

theorem takeUntil_append (hd : Delimiter d) (ha : ¬ d <:+: a) :
    takeUntil (a ++ (d ++ r)) d = some (a, r) :=
  (takeUntil_eq_some hd).mpr ⟨(List.append_assoc _ _ _).symm, ha⟩

theorem index_eq_none : index s d = none ↔ ¬ d <:+: s := by
  induction s with
  | nil => cases d <;> simp [index]
  | cons c t ih =>
    rw [index, List.infix_cons_iff, not_or, ← ih]
    split_ifs with h <;> simp_all

theorem takeUntil_eq_none : takeUntil s d = none ↔ ¬ d <:+: s := by
  simp [takeUntil, index_eq_none]

end Microkube.GoStrings
