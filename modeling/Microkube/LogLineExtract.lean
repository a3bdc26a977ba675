import Microkube.GoStrings

/-!
# The generated kube log-line extractors

`KubeLogLine.Extract` and `KubeLogLineRestful.Extract` were generated by ldetool from `logs.lde`.
Each resets `p.rest` to the line and runs a chain of "take until" and "skip prefix" steps over it.
At the first step that fails it returns `(false, nil)` and keeps the fields set so far; after the
last step it returns `(true, nil)`. No path builds an error.

The two extractors accept exactly the lines of the grammar of `logs.lde`, and then the fields are
the grammar's pieces: `KubeLogLine.extract_iff_kubeLogShape` and `KubeLogLineRestful.extract_iff_restfulShape`.
-/

namespace Microkube.LogLineExtract
open GoStrings

/-- Go's `error` result; the generated extractors return `nil` on every path. -/
abbrev GoError := String

def bslashN : GoString := ascii "\n"
def colonSpace : GoString := ascii ": "
def lsbrckRestfulRsbrckSpace : GoString := ascii "[restful] "
def lsbrckRestfulSlashSwaggerRsbrckSpace : GoString := ascii "[restful/swagger] "
def rsbrckSpace : GoString := ascii "] "
def space : GoString := ascii " "

theorem space_delimiter : Delimiter space := ⟨32, [], rfl, by decide⟩
theorem rsbrckSpace_delimiter : Delimiter rsbrckSpace := ⟨93, [32], rfl, by decide⟩
theorem colonSpace_delimiter : Delimiter colonSpace := ⟨58, [32], rfl, by decide⟩
theorem bslashN_delimiter : Delimiter bslashN := ⟨10, [], rfl, by decide⟩

/-- The receiver of `KubeLogLine.Extract`; `{}` is Go's zero value. -/
structure KubeLogLine where
  rest : GoString := []
  severityID : GoString := []
  time : GoString := []
  unknownAttribute : GoString := []
  location : GoString := []
  message : GoString := []
  deriving DecidableEq, Repr

/-- `(p *KubeLogLine) Extract(line)`: the receiver after the call, and the `(bool, error)` result. -/
def KubeLogLine.extract (p : KubeLogLine) (line : GoString) : KubeLogLine × Bool × Option GoError :=
  let p := { p with rest := line }
  match takeUntil p.rest space with
  | none => (p, false, none)
  | some (severityID, rest) =>
  let p := { p with severityID, rest }
  match takeUntil p.rest space with
  | none => (p, false, none)
  | some (time, rest) =>
  let p := { p with time, rest }
  match takeUntil p.rest space with
  | none => (p, false, none)
  | some (unknownAttribute, rest) =>
  let p := { p with unknownAttribute, rest }
  match takeUntil p.rest rsbrckSpace with
  | none => (p, false, none)
  | some (location, rest) =>
  let p := { p with location, rest }
  match takeUntil p.rest bslashN with
  | none => (p, false, none)
  | some (message, rest) => ({ p with message, rest }, true, none)

/-- The receiver of `KubeLogLineRestful.Extract`. -/
structure KubeLogLineRestful where
  rest : GoString := []
  date : GoString := []
  time : GoString := []
  location : GoString := []
  message : GoString := []
  deriving DecidableEq, Repr

/-- `(p *KubeLogLineRestful) Extract(line)`. -/
def KubeLogLineRestful.extract (p : KubeLogLineRestful) (line : GoString) :
    KubeLogLineRestful × Bool × Option GoError :=
  let p := { p with rest := line }
  match skipPrefix p.rest lsbrckRestfulRsbrckSpace with
  | none => (p, false, none)
  | some rest =>
  let p := { p with rest }
  match takeUntil p.rest space with
  | none => (p, false, none)
  | some (date, rest) =>
  let p := { p with date, rest }
  match takeUntil p.rest space with
  | none => (p, false, none)
  | some (time, rest) =>
  let p := { p with time, rest }
  match takeUntil p.rest colonSpace with
  | none => (p, false, none)
  | some (location, rest) =>
  let p := { p with location, rest }
  match skipPrefix p.rest lsbrckRestfulSlashSwaggerRsbrckSpace with
  | none => (p, false, none)
  | some rest =>
  let p := { p with rest }
  match takeUntil p.rest bslashN with
  | none => (p, false, none)
  | some (message, rest) => ({ p with message, rest }, true, none)

/-- `line = a ␠ b ␠ c ␠ d "] " e "\n" r`, each piece free of the delimiter that ends it. -/
def KubeLogShape (line a b c d e r : GoString) : Prop :=
  line = a ++ space ++ b ++ space ++ c ++ space ++ d ++ rsbrckSpace ++ e ++ bslashN ++ r ∧
    ¬ space <:+: a ∧ ¬ space <:+: b ∧ ¬ space <:+: c ∧ ¬ rsbrckSpace <:+: d ∧ ¬ bslashN <:+: e

/-- `line = "[restful] " a ␠ b ␠ l ": [restful/swagger] " m "\n" r`. -/
def RestfulShape (line a b l m r : GoString) : Prop :=
  line = lsbrckRestfulRsbrckSpace ++ a ++ space ++ b ++ space ++ l ++ colonSpace ++
      lsbrckRestfulSlashSwaggerRsbrckSpace ++ m ++ bslashN ++ r ∧
    ¬ space <:+: a ∧ ¬ space <:+: b ∧ ¬ colonSpace <:+: l ∧ ¬ bslashN <:+: m

variable (p : KubeLogLine) (q : KubeLogLineRestful) (line : GoString)

theorem KubeLogLine.extract_error : (p.extract line).2.2 = none := by
  simp only [KubeLogLine.extract]
  repeat' split
  all_goals rfl

theorem KubeLogLineRestful.extract_error : (q.extract line).2.2 = none := by
  simp only [KubeLogLineRestful.extract]
  repeat' split
  all_goals rfl

theorem KubeLogLine.extract_of_shape {a b c d e r : GoString} (h : KubeLogShape line a b c d e r) :
    p.extract line =
      ({ rest := r, severityID := a, time := b, unknownAttribute := c, location := d,
         message := e }, true, none) := by
  obtain ⟨rfl, ha, hb, hc, hd, he⟩ := h
  simp [KubeLogLine.extract, takeUntil_append, space_delimiter, rsbrckSpace_delimiter,
    bslashN_delimiter, ha, hb, hc, hd, he]

theorem KubeLogLine.shape_of_extract (h : (p.extract line).2.1 = true) :
    ∃ a b c d e r, KubeLogShape line a b c d e r := by
  simp only [KubeLogLine.extract] at h
  iterate 5 (split at h; · simp at h)
  rename_i a r₁ h₁ _ b r₂ h₂ _ c r₃ h₃ _ d r₄ h₄ _ e r h₅
  obtain ⟨rfl, ha⟩ := (takeUntil_eq_some space_delimiter).mp h₁
  obtain ⟨rfl, hb⟩ := (takeUntil_eq_some space_delimiter).mp h₂
  obtain ⟨rfl, hc⟩ := (takeUntil_eq_some space_delimiter).mp h₃
  obtain ⟨rfl, hd⟩ := (takeUntil_eq_some rsbrckSpace_delimiter).mp h₄
  obtain ⟨rfl, he⟩ := (takeUntil_eq_some bslashN_delimiter).mp h₅
  exact ⟨a, b, c, d, e, r, by simp only [List.append_assoc], ha, hb, hc, hd, he⟩

/-- The grammar's pieces of a line are unique: the extractor determines them. -/
theorem KubeLogShape.unique {a b c d e r a' b' c' d' e' r' : GoString}
    (h : KubeLogShape line a b c d e r) (h' : KubeLogShape line a' b' c' d' e' r') :
    a' = a ∧ b' = b ∧ c' = c ∧ d' = d ∧ e' = e ∧ r' = r := by
  have := (KubeLogLine.extract_of_shape {} line h').symm.trans (KubeLogLine.extract_of_shape {} line h)
  simp only [Prod.mk.injEq, KubeLogLine.mk.injEq] at this
  tauto

/-- `KubeLogLine.Extract` returns `(true, nil)` exactly on the lines of the grammar, and then sets
the fields to the grammar's pieces, which are unique; on every other line it returns
`(false, nil)`. -/
theorem KubeLogLine.extract_iff_kubeLogShape :
    (p.extract line).2.2 = none ∧
    ((p.extract line).2.1 = true ↔ ∃ a b c d e r, KubeLogShape line a b c d e r) ∧
    ∀ a b c d e r, KubeLogShape line a b c d e r →
      p.extract line =
        ({ rest := r, severityID := a, time := b, unknownAttribute := c, location := d,
           message := e }, true, none) ∧
      ∀ a' b' c' d' e' r', KubeLogShape line a' b' c' d' e' r' →
        a' = a ∧ b' = b ∧ c' = c ∧ d' = d ∧ e' = e ∧ r' = r := by
  refine ⟨extract_error p line, ⟨shape_of_extract p line, ?_⟩, fun a b c d e r h => ?_⟩
  · rintro ⟨a, b, c, d, e, r, h⟩
    simp [extract_of_shape p line h]
  · exact ⟨extract_of_shape p line h, fun a' b' c' d' e' r' h' => KubeLogShape.unique line h h'⟩

theorem KubeLogLineRestful.extract_of_shape {a b l m r : GoString} (h : RestfulShape line a b l m r) :
    q.extract line = ({ rest := r, date := a, time := b, location := l, message := m }, true,
      none) := by
  obtain ⟨rfl, ha, hb, hl, hm⟩ := h
  simp [KubeLogLineRestful.extract, takeUntil_append, space_delimiter, colonSpace_delimiter,
    bslashN_delimiter, ha, hb, hl, hm]

theorem KubeLogLineRestful.shape_of_extract (h : (q.extract line).2.1 = true) :
    ∃ a b l m r, RestfulShape line a b l m r := by
  simp only [KubeLogLineRestful.extract] at h
  iterate 6 (split at h; · simp at h)
  rename_i r₀ h₀ _ a r₁ h₁ _ b r₂ h₂ _ l r₃ h₃ _ r₄ h₄ _ m r h₅
  obtain rfl := skipPrefix_eq_some.mp h₀
  obtain ⟨rfl, ha⟩ := (takeUntil_eq_some space_delimiter).mp h₁
  obtain ⟨rfl, hb⟩ := (takeUntil_eq_some space_delimiter).mp h₂
  obtain ⟨rfl, hl⟩ := (takeUntil_eq_some colonSpace_delimiter).mp h₃
  obtain rfl := skipPrefix_eq_some.mp h₄
  obtain ⟨rfl, hm⟩ := (takeUntil_eq_some bslashN_delimiter).mp h₅
  exact ⟨a, b, l, m, r, by simp only [List.append_assoc], ha, hb, hl, hm⟩

theorem RestfulShape.unique {a b l m r a' b' l' m' r' : GoString}
    (h : RestfulShape line a b l m r) (h' : RestfulShape line a' b' l' m' r') :
    a' = a ∧ b' = b ∧ l' = l ∧ m' = m ∧ r' = r := by
  have := (KubeLogLineRestful.extract_of_shape {} line h').symm.trans
    (KubeLogLineRestful.extract_of_shape {} line h)
  simp only [Prod.mk.injEq, KubeLogLineRestful.mk.injEq] at this
  tauto

/-- `KubeLogLineRestful.Extract` returns `(true, nil)` exactly on the restful lines of the grammar,
and then sets the fields to the grammar's unique pieces; otherwise `(false, nil)`. -/
theorem KubeLogLineRestful.extract_iff_restfulShape :
    (q.extract line).2.2 = none ∧
    ((q.extract line).2.1 = true ↔ ∃ a b l m r, RestfulShape line a b l m r) ∧
    ∀ a b l m r, RestfulShape line a b l m r →
      q.extract line = ({ rest := r, date := a, time := b, location := l, message := m }, true,
        none) ∧
      ∀ a' b' l' m' r', RestfulShape line a' b' l' m' r' →
        a' = a ∧ b' = b ∧ l' = l ∧ m' = m ∧ r' = r := by
  refine ⟨extract_error q line, ⟨shape_of_extract q line, ?_⟩, fun a b l m r h => ?_⟩
  · rintro ⟨a, b, l, m, r, h⟩
    simp [extract_of_shape q line h]
  · exact ⟨extract_of_shape q line h, fun a' b' l' m' r' h' => RestfulShape.unique line h h'⟩

end Microkube.LogLineExtract
