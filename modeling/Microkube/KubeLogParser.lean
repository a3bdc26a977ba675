import Microkube.LogLineExtract

/-!
# The kube log parser

`KubeLogParser.handleLine` turns one output line of a Kubernetes component into logrus entries.
A line starting with `[restful]` goes to the restful extractor. Any other line first has every run
of spaces replaced by one space (the regexp `[ ]+` compiled in `NewKubeLogParser`) and then goes to
`KubeLogLine.Extract`; on success the parser switches on the byte `line.SeverityID[0]`.

A Go run-time panic is an `Except` error. The severity byte is read without a length check, and
`handleLine_panic_iff` shows exactly when that panics: the space-collapsed line is accepted with an
empty severity field, which happens for every accepted line that starts with a space.

The collapse is what lets the extractor read glog lines, whose thread id is padded with spaces:
`handleLine_glog_line` says what is logged for every such line. The collapse also runs over the
message, so the message logged has lost its leading spaces and each run of spaces inside it.
-/

namespace Microkube.LogParser
open GoStrings LogLineExtract

/-- The logrus levels `handleLine` logs at. -/
inductive Level | debug | info | warning | error
  deriving DecidableEq, Repr

/-- A value of a logrus field: a string, or the severity byte of an unknown level. -/
inductive FieldValue | str (s : GoString) | byte (b : UInt8)
  deriving DecidableEq, Repr

/-- One logrus entry. -/
structure Entry where
  level : Level
  fields : List (String × FieldValue)
  message : GoString
  deriving DecidableEq, Repr

/-- The parser state `handleLine` reads: the application name (the compiled regexp is fixed). -/
structure KubeLogParser where
  app : GoString

/-- `NewKubeLogParser(app)`. -/
def newKubeLogParser (app : GoString) : KubeLogParser := ⟨app⟩

/-- `regexpInstance.ReplaceAllString(lineStr, " ")` for the regexp `[ ]+`: each maximal run of
spaces becomes a single space. -/
def collapseSpaces : GoString → GoString
  | [] => []
  | c :: rest => if c = 32 ∧ rest.head? = some 32 then collapseSpaces rest else c :: collapseSpaces rest

theorem collapseSpaces_cons_of_ne {c : UInt8} (hc : c ≠ 32) (t : GoString) :
    collapseSpaces (c :: t) = c :: collapseSpaces t := by
  simp [collapseSpaces, hc]

theorem collapseSpaces_append_of_no_space {u : GoString} (hu : 32 ∉ u) (v : GoString) :
    collapseSpaces (u ++ v) = u ++ collapseSpaces v := by
  induction u with
  | nil => rfl
  | cons c u ih =>
    rw [List.mem_cons, not_or] at hu
    rw [List.cons_append, collapseSpaces_cons_of_ne (Ne.symm hu.1), ih hu.2]; rfl

/-- A run of spaces collapses to its first. -/
theorem collapseSpaces_space_cons (v : GoString) :
    collapseSpaces (32 :: v) = 32 :: collapseSpaces (v.dropWhile (· = 32)) := by
  induction v with
  | nil => rfl
  | cons c v ih =>
    by_cases hc : c = 32
    · subst hc
      rw [collapseSpaces, if_pos ⟨rfl, rfl⟩, ih]
      simp
    · rw [collapseSpaces, if_neg (by simp [hc])]
      simp [hc]

theorem collapseSpaces_append {v w : GoString} (hw : w.head? ≠ some 32) :
    collapseSpaces (v ++ w) = collapseSpaces v ++ collapseSpaces w := by
  induction v with
  | nil => rfl
  | cons c v ih =>
    have hhead : (v ++ w).head? = some 32 ↔ v.head? = some 32 := by cases v <;> simp [hw]
    rw [List.cons_append, collapseSpaces, collapseSpaces, ih]
    by_cases hc : c = 32 ∧ v.head? = some 32
    · rw [if_pos (hc.imp_right hhead.mpr), if_pos hc]
    · rw [if_neg (mt (And.imp_right hhead.mp) hc), if_neg hc, List.cons_append]

theorem mem_of_mem_collapseSpaces {b : UInt8} {l : GoString} (h : b ∈ collapseSpaces l) : b ∈ l := by
  induction l with
  | nil => exact h
  | cons c l ih =>
    unfold collapseSpaces at h
    split_ifs at h
    · exact List.mem_cons_of_mem _ (ih h)
    · rcases List.mem_cons.mp h with rfl | h
      · exact List.mem_cons_self _ _
      · exact List.mem_cons_of_mem _ (ih h)

/-- The cases of `switch line.SeverityID[0]` that log the message itself. -/
def severityLevel (b : UInt8) : Option Level :=
  if b = 'I'.toUInt8 then some .info
  else if b = 'E'.toUInt8 then some .error
  else if b = 'W'.toUInt8 then some .warning
  else if b = 'D'.toUInt8 then some .debug
  else if b = 'N'.toUInt8 then some .info   -- Notice is handled as info
  else if b = 'S'.toUInt8 then some .error  -- Severe is handled as error
  else none

/-- `(h *KubeLogParser) handleLine(lineStr)`: the entries it logs and its `error` result. -/
def KubeLogParser.handleLine (h : KubeLogParser) (lineStr : GoString) :
    Except GoPanic (List Entry × Option GoError) :=
  if hasPrefix lineStr (ascii "[restful]") then
    let (line, ok, _) := ({} : KubeLogLineRestful).extract lineStr
    if !ok then .ok ([⟨.warning, [("app", .str h.app)], trim lineStr bslashN⟩], none)
    else .ok ([⟨.info, [("component", .str (ascii "restful")), ("location", .str line.location),
      ("app", .str h.app)], line.message⟩], none)
  else
    let lineStr := collapseSpaces lineStr
    let (line, ok, _) := ({} : KubeLogLine).extract lineStr
    if ok then do
      let fields := [("app", .str h.app), ("location", .str line.location)]
      let severity ← byteAt line.severityID 0
      match severityLevel severity with
      | some level => .ok ([⟨level, fields, line.message⟩], none)
      | none => .ok ([⟨.warning, [("component", .str (ascii "KubeLogParser")),
          ("app", .str (ascii "microkube")), ("level", .byte severity)],
          ascii "Unknown severity level in kube log parser"⟩,
          ⟨.warning, [("app", .str h.app)], lineStr⟩], none)
    else .ok ([⟨.warning, [("app", .str h.app)], trim lineStr bslashN⟩], none)

variable (h : KubeLogParser) (lineStr : GoString)

/-- `handleLine` panics exactly on a non-restful line whose space-collapsed form the extractor
accepts with an empty severity field; on every other line it returns `nil`. -/
theorem handleLine_panic_iff (e : GoPanic) :
    h.handleLine lineStr = .error e ↔
      hasPrefix lineStr (ascii "[restful]") = false ∧
      (∃ b c d m r, KubeLogShape (collapseSpaces lineStr) [] b c d m r) ∧
      e = .indexOutOfRange 0 0 := by
  unfold KubeLogParser.handleLine
  by_cases hr : hasPrefix lineStr (ascii "[restful]") = true
  · rcases KubeLogLineRestful.extract {} lineStr with ⟨q, _ | _, err⟩ <;> simp [hr]
  simp only [hr, if_false, Bool.false_eq_true, true_and]
  by_cases hs : ∃ a b c d m r, KubeLogShape (collapseSpaces lineStr) a b c d m r
  · obtain ⟨a, b, c, d, m, r, hs⟩ := hs
    rw [KubeLogLine.extract_of_shape _ _ hs]
    rcases a with _ | ⟨x, a⟩
    · simp only [byteAt, List.get?_nil, List.length_nil, bind, Except.bind]
      exact ⟨fun h => ⟨⟨b, c, d, m, r, hs⟩, (Except.error.inj h).symm⟩, fun h => h.2 ▸ rfl⟩
    · have hne : ¬ ∃ b c d m r, KubeLogShape (collapseSpaces lineStr) [] b c d m r := by
        rintro ⟨b', c', d', m', r', h'⟩
        exact absurd (KubeLogShape.unique _ hs h').1 (by simp)
      simp only [hne, false_and, iff_false]
      simp only [byteAt, List.get?_cons_zero, bind, Except.bind]
      cases severityLevel x <;> simp
  · have hne : ¬ ∃ b c d m r, KubeLogShape (collapseSpaces lineStr) [] b c d m r :=
      fun ⟨b, c, d, m, r, h'⟩ => hs ⟨[], b, c, d, m, r, h'⟩
    rcases hx : KubeLogLine.extract {} (collapseSpaces lineStr) with ⟨q, _ | _, err⟩
    · simp [hne]
    · exact absurd (KubeLogLine.shape_of_extract {} (collapseSpaces lineStr) (by rw [hx])) hs

/-- An indented kube log line: once its leading spaces collapse to one, `SeverityID` is empty and
`line.SeverityID[0]` panics. -/
theorem handleLine_indented_line_panics :
    (newKubeLogParser (ascii "kube-api")).handleLine
      (ascii "  I0101 12:00:00.000000 1 main.go:5] msg\n") = .error (.indexOutOfRange 0 0) := by
  rfl

theorem collapseSpaces_space_token {u : GoString} (hu : 32 ∉ u) (hu0 : u ≠ []) (v : GoString) :
    collapseSpaces (32 :: (u ++ v)) = 32 :: (u ++ collapseSpaces v) := by
  obtain ⟨c, u, rfl⟩ := List.exists_cons_of_ne_nil hu0
  have hc : c ≠ 32 := fun h => hu (h ▸ List.mem_cons_self _ _)
  rw [collapseSpaces_space_cons, List.cons_append, List.dropWhile_cons_of_neg (by simpa using hc),
    ← List.cons_append, collapseSpaces_append_of_no_space hu]

theorem collapseSpaces_spaces_token (k : Nat) {u : GoString} (hu : 32 ∉ u) (hu0 : u ≠ [])
    (v : GoString) :
    collapseSpaces (32 :: (List.replicate k 32 ++ (u ++ v))) = 32 :: (u ++ collapseSpaces v) := by
  induction k with
  | zero => exact collapseSpaces_space_token hu hu0 v
  | succ k ih => rw [List.replicate_succ, List.cons_append, collapseSpaces, if_pos ⟨rfl, rfl⟩, ih]

theorem dropWhile_space_append_newline (msg : GoString) :
    (msg ++ [10]).dropWhile (· = 32) = msg.dropWhile (· = 32) ++ [10] := by
  induction msg with
  | nil => rfl
  | cons c msg ih => by_cases hc : c = 32 <;> simp [hc, ih]

/-- A glog line after `ReplaceAllString`: the padding before the thread id is gone, and so are
the spaces that start the message and all but one of each run inside it. -/
theorem collapseSpaces_glog_line {x : UInt8} {date time thread loc : GoString} (k : Nat)
    (msg : GoString) (hx : x ≠ 32) (hdate : 32 ∉ date) (htime : 32 ∉ time) (htime0 : time ≠ [])
    (hthread : 32 ∉ thread) (hthread0 : thread ≠ []) (hloc : 32 ∉ loc) :
    collapseSpaces (x :: date ++ space ++ time ++ space ++ List.replicate k 32 ++ thread ++ space ++
        loc ++ rsbrckSpace ++ msg ++ bslashN) =
      x :: date ++ space ++ time ++ space ++ thread ++ space ++ loc ++ rsbrckSpace ++
        collapseSpaces (msg.dropWhile (· = 32)) ++ bslashN := by
  have hloc' : 32 ∉ loc ++ [93] := by simpa using hloc
  simp only [space, rsbrckSpace, bslashN, show ascii " " = [32] from rfl,
    show ascii "] " = [93, 32] from rfl, show ascii "\n" = [10] from rfl, List.append_assoc,
    List.cons_append, List.singleton_append, List.nil_append]
  rw [collapseSpaces_cons_of_ne hx, collapseSpaces_append_of_no_space hdate,
    collapseSpaces_space_token htime htime0, collapseSpaces_spaces_token k hthread hthread0,
    show loc ++ 93 :: 32 :: (msg ++ [10]) = loc ++ [93] ++ 32 :: (msg ++ [10]) by simp,
    collapseSpaces_space_token hloc' (by simp), collapseSpaces_space_cons,
    dropWhile_space_append_newline, collapseSpaces_append (by decide)]
  simp [collapseSpaces]

example : collapseSpaces ((ascii "  up   and running").dropWhile (· = 32)) = ascii "up and running" := by
  decide

/-- A glog line `Lmmdd hh:mm:ss.uuuuuu threadid file:line] msg`, whatever the padding before the
thread id: `handleLine` logs its message at the level of its severity letter with its location, or
two warnings for an unknown letter. The message it logs has lost its leading spaces, and every
run of spaces inside it is logged as one space. -/
theorem handleLine_glog_line (h : KubeLogParser) {x : UInt8} {date time thread loc : GoString}
    (k : Nat) (msg : GoString) (hx : x ≠ 32) (hb : x ≠ 91) (hdate : 32 ∉ date) (htime : 32 ∉ time)
    (htime0 : time ≠ []) (hthread : 32 ∉ thread) (hthread0 : thread ≠ []) (hloc : 32 ∉ loc)
    (hmsg : 10 ∉ msg) :
    h.handleLine (x :: date ++ space ++ time ++ space ++ List.replicate k 32 ++ thread ++ space ++
        loc ++ rsbrckSpace ++ msg ++ bslashN) =
      .ok (match severityLevel x with
        | some level => [⟨level, [("app", .str h.app), ("location", .str loc)],
            collapseSpaces (msg.dropWhile (· = 32))⟩]
        | none => [⟨.warning, [("component", .str (ascii "KubeLogParser")),
              ("app", .str (ascii "microkube")), ("level", .byte x)],
              ascii "Unknown severity level in kube log parser"⟩,
            ⟨.warning, [("app", .str h.app)], x :: date ++ space ++ time ++ space ++ thread ++ space ++
              loc ++ rsbrckSpace ++ collapseSpaces (msg.dropWhile (· = 32)) ++ bslashN⟩], none) := by
  have nsp : ∀ u : GoString, 32 ∉ u → ¬ space <:+: u := fun u hu hi =>
    hu (hi.subset (by decide : (32 : UInt8) ∈ space))
  have hshape : KubeLogShape (x :: date ++ space ++ time ++ space ++ thread ++ space ++ loc ++
      rsbrckSpace ++ collapseSpaces (msg.dropWhile (· = 32)) ++ bslashN) (x :: date) time thread loc
      (collapseSpaces (msg.dropWhile (· = 32))) [] :=
    ⟨by simp, nsp _ (by simpa [Ne.symm hx] using hdate), nsp _ htime, nsp _ hthread,
      fun hi => hloc (hi.subset (by decide : (32 : UInt8) ∈ rsbrckSpace)),
      fun hi => hmsg ((List.dropWhile_sublist _).subset
        (mem_of_mem_collapseSpaces (hi.subset (by decide : (10 : UInt8) ∈ bslashN))))⟩
  have hnr : hasPrefix (x :: date ++ space ++ time ++ space ++ List.replicate k 32 ++ thread ++ space ++
      loc ++ rsbrckSpace ++ msg ++ bslashN) (ascii "[restful]") = false := by
    rw [hasPrefix, show ascii "[restful]" = 91 :: ascii "restful]" from rfl]
    simp [List.isPrefixOf, Ne.symm hb]
  unfold KubeLogParser.handleLine
  rw [if_neg (by rw [hnr]; decide)]
  dsimp only
  rw [collapseSpaces_glog_line k msg hx hdate htime htime0 hthread hthread0 hloc,
    KubeLogLine.extract_of_shape _ _ hshape]
  simp only [if_true, byteAt, List.get?_cons_zero, bind, Except.bind]
  cases severityLevel x <;> rfl

/-- A glog line of kube-apiserver with a padded thread id and two runs of spaces in its message. -/
theorem apiserver_glog_line_logged :
    (73 : UInt8) ≠ 32 ∧ (73 : UInt8) ≠ 91 ∧ 32 ∉ ascii "0101" ∧ 32 ∉ ascii "12:00:00.000000" ∧
    ascii "12:00:00.000000" ≠ [] ∧ 32 ∉ ascii "1" ∧ ascii "1" ≠ [] ∧ 32 ∉ ascii "main.go:5" ∧
    10 ∉ ascii "  up   and running" ∧
    (newKubeLogParser (ascii "kube-api")).handleLine (73 :: ascii "0101" ++ space ++
        ascii "12:00:00.000000" ++ space ++ List.replicate 6 32 ++ ascii "1" ++ space ++
        ascii "main.go:5" ++ rsbrckSpace ++ ascii "  up   and running" ++ bslashN) =
      .ok (match severityLevel 73 with
        | some level => [⟨level, [("app", .str (newKubeLogParser (ascii "kube-api")).app),
            ("location", .str (ascii "main.go:5"))],
            collapseSpaces ((ascii "  up   and running").dropWhile (· = 32))⟩]
        | none => [⟨.warning, [("component", .str (ascii "KubeLogParser")),
              ("app", .str (ascii "microkube")), ("level", .byte 73)],
              ascii "Unknown severity level in kube log parser"⟩,
            ⟨.warning, [("app", .str (newKubeLogParser (ascii "kube-api")).app)],
              73 :: ascii "0101" ++ space ++ ascii "12:00:00.000000" ++ space ++ ascii "1" ++ space ++
              ascii "main.go:5" ++ rsbrckSpace ++
              collapseSpaces ((ascii "  up   and running").dropWhile (· = 32)) ++ bslashN⟩], none) :=
  ⟨by decide, by decide, by decide, by decide, by decide, by decide, by decide, by decide, by decide,
    handleLine_glog_line _ 6 _ (by decide) (by decide) (by decide) (by decide) (by decide) (by decide)
      (by decide) (by decide) (by decide)⟩

end Microkube.LogParser
