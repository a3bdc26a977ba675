import Microkube.GoStrings
import Mathlib.Logic.Function.Basic

/-!
# Preparing the CNI plugins in `createDirectories`

`createDirectories` fills the kubelet's CNI directory `<baseDir>/kube/kubelet/cni` with the plugins
`bridge`, `host-local` and `loopback`. For each plugin that `helpers.FindBinary` finds and that
`os.Stat` does not find in place, it calls `os.Link`, and when the link fails it falls back to a
copy. The copy calls `io.Copy(in, out)`, but `io.Copy` takes the writer first: it copies from the
destination it has just created and truncated into the source, opened read-only. With the generic
loop of Go 1.10 it reads nothing and writes nothing, and the check `n == 0` aborts with "File copy
is empty!"; where `io.Copy` goes through copy_file_range(2), the kernel refuses the read-only file
and the copy aborts with "Couldn't copy file". Either way a failed link still ends the process, and
the fallback leaves an empty file behind. `os.Stat` finds that file on every later start, so no
later start replaces it, and the kubelet is given the directory that holds it.

The host's files are a map from paths to contents. `helpers.FindBinary` is not part of the source,
and whether a link, an open or a create succeeds depends on the host: these are the host's
answers. `os.Stat` succeeds exactly when the file exists. `Host.osLink`, `osRemove`, `Host.osOpen`
and `Host.osOpenFile` are `os.Link`, `os.Remove` (whose error the source ignores), `os.Open`
(read-only, at offset 0) and `os.OpenFile(name, os.O_RDWR|os.O_CREATE|os.O_TRUNC, 0755)`;
`pathJoin` is `path.Join` without the `path.Clean` of its result. The directories
`cmd.EnsureDir` creates are not modelled.
-/

namespace Microkube.Setup

open Microkube.GoStrings

abbrev FileSystem := GoString → Option GoString

def pathJoin (elems : List GoString) : GoString := (ascii "/").intercalate elems

/-- An open `*os.File`: its path, whether it was opened for writing, and what reading it from its
offset returns. -/
structure File where
  path : GoString
  writable : Bool
  unread : GoString

/-- What the host answers to the calls of `createDirectories`, beyond its files: where
`helpers.FindBinary` finds a plugin; whether `os.Link(src, dst)` succeeds when `src` exists and
`dst` does not (it fails across file systems, for instance); whether `os.Open` of an existing file
and `os.OpenFile(name, os.O_RDWR|os.O_CREATE|os.O_TRUNC, 0755)` succeed; and whether
`(*os.File).ReadFrom` hands `io.Copy` to copy_file_range(2), as Go 1.15 and later do on a Linux
kernel that has it. The Go 1.10 the repository's CI builds with has no `ReadFrom` on files, and
`io.Copy` between files is its generic loop. -/
structure Host where
  findBinary : GoString → Option GoString
  linkOk : GoString → GoString → Bool
  openOk : GoString → Bool
  createOk : GoString → Bool
  copyFileRange : Bool

def Host.osLink (h : Host) (fs : FileSystem) (src dst : GoString) : Option FileSystem :=
  match fs src, fs dst with
  | some c, none => if h.linkOk src dst then some (Function.update fs dst (some c)) else none
  | _, _ => none

def osRemove (fs : FileSystem) (name : GoString) : FileSystem := Function.update fs name none

def Host.osOpen (h : Host) (fs : FileSystem) (name : GoString) : Option File :=
  match fs name with
  | some c => if h.openOk name then some ⟨name, false, c⟩ else none
  | none => none

def Host.osOpenFile (h : Host) (fs : FileSystem) (name : GoString) : Option (FileSystem × File) :=
  if h.createOk name then some (Function.update fs name (some []), ⟨name, true, []⟩) else none

/-- `io.Copy(dst, src)` between two files: the files, the count `n` of bytes written and whether an
error came back. copy_file_range(2) refuses a destination not opened for writing with EBADF before
it reads anything, and `io.Copy` returns that error; a copy of nothing falls back to the generic
loop. The generic loop reads `src` to its end and writes what it read to `dst` from `dst`'s offset
0; a write to a file opened read-only fails with nothing written. -/
def Host.ioCopy (h : Host) (fs : FileSystem) (dst src : File) : FileSystem × Nat × Bool :=
  if h.copyFileRange && !dst.writable then (fs, 0, true)
  else if src.unread = [] then (fs, 0, false)
  else if dst.writable then
    (Function.update fs dst.path (some (src.unread ++ ((fs dst.path).getD []).drop src.unread.length)),
      src.unread.length, false)
  else (fs, 0, true)

/-- The `log.Fatal` calls of the copy fallback: "Couldn't open source file", "Couldn't open
destination file", "Couldn't copy file" and "File copy is empty!". -/
inductive CopyFatal
  | openSource
  | openDestination
  | copy
  | empty
  deriving DecidableEq, Repr

def cniPlugins : List GoString := [ascii "bridge", ascii "host-local", ascii "loopback"]

def pluginDest (baseDir plugin : GoString) : GoString :=
  pathJoin [baseDir, ascii "kube", ascii "kubelet", ascii "cni", plugin]

/-- The copy fallback of the loop body, from `os.Remove(destPath)` on. -/
def copyPlugin (h : Host) (fs : FileSystem) (pluginPath destPath : GoString) :
    FileSystem × Option CopyFatal :=
  let fs := osRemove fs destPath
  match h.osOpen fs pluginPath with
  | none => (fs, some .openSource)
  | some inFile =>
    match h.osOpenFile fs destPath with
    | none => (fs, some .openDestination)
    | some (fs, out) =>
      let (fs, n, err) := h.ioCopy fs inFile out
      if err then (fs, some .copy)
      else if n = 0 then (fs, some .empty)
      else (fs, none)

/-- The body of `for _, plugin := range cniPlugins`. -/
def preparePlugin (h : Host) (baseDir : GoString) (fs : FileSystem) (plugin : GoString) :
    FileSystem × Option CopyFatal :=
  match h.findBinary plugin with
  | none => (fs, none)
  | some pluginPath =>
    if (fs (pluginDest baseDir plugin)).isSome then (fs, none)
    else match h.osLink fs pluginPath (pluginDest baseDir plugin) with
      | some fs => (fs, none)
      | none => copyPlugin h fs pluginPath (pluginDest baseDir plugin)

/-- The loop over the plugins; a `log.Fatal` ends the process with the files as they are. -/
def preparePlugins (h : Host) (baseDir : GoString) :
    FileSystem → List GoString → FileSystem × Option CopyFatal
  | fs, [] => (fs, none)
  | fs, p :: ps =>
    match preparePlugin h baseDir fs p with
    | (fs, none) => preparePlugins h baseDir fs ps
    | (fs, some a) => (fs, some a)

def createDirectories (h : Host) (baseDir : GoString) (fs : FileSystem) :
    FileSystem × Option CopyFatal :=
  preparePlugins h baseDir fs cniPlugins

/-- The `cniDir` that `KubeletHandler.Start` passes as `--cni-bin-dir` for the work directory
`rootDir`: the prepared directory when `os.Stat` finds `bridge` there, the distribution's
directory otherwise. -/
def cniDir (fs : FileSystem) (rootDir : GoString) : GoString :=
  if (fs (pathJoin [pathJoin [rootDir, ascii "kubelet/cni"], ascii "bridge"])).isSome then
    pathJoin [rootDir, ascii "kubelet/cni"]
  else ascii "/usr/lib/x86_64-linux-gnu/libexec/cni-plugins"

/-- The files after microkubed has been started once on each host of `hosts` in turn, each start
running `createDirectories` on the files the previous one left, whether that one aborted in it or
not. No other code of microkubed writes the CNI directory. -/
def restarts (baseDir : GoString) (fs : FileSystem) (hosts : List Host) : FileSystem :=
  hosts.foldl (fun fs h => (createDirectories h baseDir fs).1) fs

theorem pluginDest_inj {b p p' : GoString} : pluginDest b p = pluginDest b p' ↔ p = p' := by
  simp [pluginDest, pathJoin, List.intercalate]

/-- The kubelet's work directory is `path.Join(m.baseDir, "kube")`, so the `bridge` it looks for is
the one `createDirectories` places. -/
theorem kubelet_bridge_eq_pluginDest (b : GoString) :
    pathJoin [pathJoin [pathJoin [b, ascii "kube"], ascii "kubelet/cni"], ascii "bridge"] =
      pluginDest b (ascii "bridge") := by
  have : ascii "kubelet/cni" = ascii "kubelet" ++ ascii "/" ++ ascii "cni" := rfl
  simp [pluginDest, pathJoin, List.intercalate, this]

variable {h : Host} {b : GoString} {fs : FileSystem}

/-- The copy fallback never completes: `io.Copy(in, out)` copies from the destination it has just
truncated into the read-only source, so once both files open it fails through copy_file_range and
copies nothing otherwise. -/
theorem copyPlugin_eq (h : Host) (fs : FileSystem) (src dst : GoString) :
    copyPlugin h fs src dst =
      if ((osRemove fs dst src).isSome ∧ h.openOk src = true) then
        if h.createOk dst then
          (Function.update fs dst (some []), some (if h.copyFileRange then .copy else .empty))
        else (osRemove fs dst, some .openDestination)
      else (osRemove fs dst, some .openSource) := by
  unfold copyPlugin Host.osOpen
  dsimp only
  rcases hs : osRemove fs dst src with _ | c
  · simp
  · by_cases ho : h.openOk src <;> by_cases hc : h.createOk dst <;>
      cases hr : h.copyFileRange <;> simp [ho, hc, hr, Host.osOpenFile, Host.ioCopy, osRemove]

theorem Host.osLink_isSome {src dst : GoString} :
    (h.osLink fs src dst).isSome ↔ (fs src).isSome ∧ fs dst = none ∧ h.linkOk src dst = true := by
  unfold Host.osLink
  cases fs src <;> cases fs dst <;> simp

theorem Host.osLink_eq_some {src dst : GoString} {fs' : FileSystem} (hl : h.osLink fs src dst = some fs') :
    ∃ c, fs src = some c ∧ fs' = Function.update fs dst (some c) := by
  unfold Host.osLink at hl
  split at hl
  · split_ifs at hl; exact ⟨_, ‹_›, (Option.some.inj hl).symm⟩
  · cases hl

/-- What one iteration can do: nothing, when the plugin is not found or already in place; a hard
link; or the copy fallback, after a failed link. -/
theorem preparePlugin_cases (h : Host) (b : GoString) (fs : FileSystem) (p : GoString) :
    ((∀ src, h.findBinary p = some src → (fs (pluginDest b p)).isSome) ∧
        preparePlugin h b fs p = (fs, none)) ∨
      ∃ src, h.findBinary p = some src ∧ fs (pluginDest b p) = none ∧
        ((∃ fs', h.osLink fs src (pluginDest b p) = some fs' ∧ preparePlugin h b fs p = (fs', none)) ∨
          (h.osLink fs src (pluginDest b p) = none ∧
            preparePlugin h b fs p = copyPlugin h fs src (pluginDest b p))) := by
  unfold preparePlugin
  rcases hf : h.findBinary p with _ | src
  · exact .inl ⟨by simp, rfl⟩
  · dsimp only
    by_cases hd : (fs (pluginDest b p)).isSome
    · exact .inl ⟨by simpa using hd, if_pos hd⟩
    · refine .inr ⟨src, rfl, by simpa using hd, ?_⟩
      rw [if_neg hd]
      rcases hl : h.osLink fs src (pluginDest b p) with _ | fs'
      · exact .inr ⟨rfl, rfl⟩
      · exact .inl ⟨fs', rfl, rfl⟩

theorem preparePlugin_frame (p : GoString) {q : GoString} (hq : q ≠ pluginDest b p) :
    (preparePlugin h b fs p).1 q = fs q := by
  rcases preparePlugin_cases h b fs p with ⟨-, he⟩ | ⟨src, -, -, ⟨fs', hl, he⟩ | ⟨-, he⟩⟩ <;> rw [he]
  · obtain ⟨c, -, rfl⟩ := Host.osLink_eq_some hl
    exact Function.update_noteq hq _ _
  · rw [copyPlugin_eq]
    split_ifs <;> exact Function.update_noteq hq _ _

/-- An iteration changes a file only where its plugin was missing, and leaves there the binary
`FindBinary` found or an empty file. -/
theorem preparePlugin_files (fs : FileSystem) (p q : GoString) :
    (preparePlugin h b fs p).1 q = fs q ∨
      q = pluginDest b p ∧ fs q = none ∧ ((preparePlugin h b fs p).1 q = some [] ∨
        ∃ src, h.findBinary p = some src ∧ (preparePlugin h b fs p).1 q = fs src) := by
  by_cases hq : q = pluginDest b p
  swap
  · exact .inl (preparePlugin_frame p hq)
  subst hq
  rcases preparePlugin_cases h b fs p with ⟨-, he⟩ | ⟨src, hf, hd, ⟨fs', hl, he⟩ | ⟨-, he⟩⟩ <;>
    rw [he]
  · exact .inl rfl
  · obtain ⟨c, hc, rfl⟩ := Host.osLink_eq_some hl
    exact .inr ⟨rfl, hd, .inr ⟨src, hf, by simp [hc]⟩⟩
  · rw [copyPlugin_eq]
    split_ifs <;> first
      | exact .inr ⟨rfl, hd, .inl (Function.update_same _ _ _)⟩
      | exact .inl (by simp [osRemove, hd])

theorem preparePlugin_keeps (p : GoString) {q c : GoString} (hq : fs q = some c) :
    (preparePlugin h b fs p).1 q = some c := by
  rcases preparePlugin_files fs p q with he | ⟨-, hn, -⟩
  · rw [he, hq]
  · rw [hq] at hn; cases hn

/-- An iteration completes exactly when the plugin is not found, is already in place, or links. -/
theorem preparePlugin_ok_iff (p : GoString) :
    (preparePlugin h b fs p).2 = none ↔
      ∀ src, h.findBinary p = some src → fs (pluginDest b p) = none →
        (fs src).isSome ∧ h.linkOk src (pluginDest b p) = true := by
  rcases preparePlugin_cases h b fs p with ⟨hn, he⟩ | ⟨src, hf, hd, ⟨fs', hl, he⟩ | ⟨hl, he⟩⟩ <;>
    rw [he]
  · refine iff_of_true rfl fun src hf hd => ?_
    simpa [hd] using hn src hf
  · obtain ⟨hsrc, -, hlink⟩ := Host.osLink_isSome.mp (by rw [hl]; rfl)
    refine iff_of_true rfl fun src' hf' _ => ?_
    obtain rfl : src = src' := Option.some.inj (hf.symm.trans hf')
    exact ⟨hsrc, hlink⟩
  · have hno : ¬((fs src).isSome ∧ h.linkOk src (pluginDest b p) = true) := fun hs =>
      by simpa [hl] using Host.osLink_isSome.mpr ⟨hs.1, hd, hs.2⟩
    refine iff_of_false ?_ fun hall => hno (hall src hf hd)
    rw [copyPlugin_eq]; split_ifs <;> simp

/-- An iteration aborts with "Couldn't copy file" only through copy_file_range, and with "File copy
is empty!" only through the generic loop. -/
theorem preparePlugin_copyFatal (p : GoString) :
    (preparePlugin h b fs p).2 ≠ some (if h.copyFileRange then .empty else .copy) := by
  rcases preparePlugin_cases h b fs p with ⟨-, he⟩ | ⟨src, -, -, ⟨fs', -, he⟩ | ⟨-, he⟩⟩ <;> rw [he]
  · simp
  · simp
  · rw [copyPlugin_eq]; split_ifs <;> simp_all

/-- An iteration that aborts in `io.Copy` or at its check `n == 0` leaves an empty file where the
plugin was missing. -/
theorem preparePlugin_empty (p : GoString)
    (he : (preparePlugin h b fs p).2 = some .empty ∨ (preparePlugin h b fs p).2 = some .copy) :
    fs (pluginDest b p) = none ∧ (preparePlugin h b fs p).1 (pluginDest b p) = some [] := by
  rcases preparePlugin_cases h b fs p with ⟨-, hr⟩ | ⟨src, -, hd, ⟨fs', -, hr⟩ | ⟨-, hr⟩⟩ <;>
    rw [hr] at he ⊢
  · simp at he
  · simp at he
  · refine ⟨hd, ?_⟩
    rw [copyPlugin_eq] at he ⊢
    split_ifs at he ⊢ <;> first | exact Function.update_same _ _ _ | simp at he

theorem copyPlugin_congr {fs₁ fs₂ : FileSystem} (src dst : GoString)
    (hs : osRemove fs₁ dst src = osRemove fs₂ dst src) :
    (copyPlugin h fs₁ src dst).2 = (copyPlugin h fs₂ src dst).2 := by
  simp only [copyPlugin_eq, hs]
  split_ifs <;> rfl

/-- What an iteration decides depends on the files only through its plugin's path and the path
`FindBinary` returns. -/
theorem preparePlugin_congr {fs₁ fs₂ : FileSystem} (p : GoString)
    (hd : fs₁ (pluginDest b p) = fs₂ (pluginDest b p))
    (hs : ∀ src, h.findBinary p = some src → fs₁ src = fs₂ src) :
    (preparePlugin h b fs₁ p).2 = (preparePlugin h b fs₂ p).2 := by
  unfold preparePlugin
  rcases hf : h.findBinary p with _ | src
  · rfl
  have hcopy := copyPlugin_congr (h := h) src (pluginDest b p)
    (show osRemove fs₁ _ src = osRemove fs₂ _ src by simp [osRemove, Function.update_apply, hs src hf])
  dsimp only
  rw [hd]
  split_ifs with hex
  · rfl
  unfold Host.osLink
  rw [hd, hs src hf, Option.not_isSome_iff_eq_none.mp hex]
  rcases fs₂ src with _ | c
  · exact hcopy
  · dsimp only
    split_ifs
    · rfl
    · exact hcopy

theorem preparePlugins_cons (fs : FileSystem) (p : GoString) (ps : List GoString) :
    preparePlugins h b fs (p :: ps) =
      if (preparePlugin h b fs p).2 = none then preparePlugins h b (preparePlugin h b fs p).1 ps
      else preparePlugin h b fs p := by
  rw [preparePlugins]
  rcases preparePlugin h b fs p with ⟨fs', _ | a⟩ <;> simp

theorem preparePlugins_keeps {q c : GoString} :
    ∀ (ps : List GoString) (fs : FileSystem), fs q = some c → (preparePlugins h b fs ps).1 q = some c
  | [], _, hq => hq
  | p :: ps, fs, hq => by
    rw [preparePlugins_cons]
    split_ifs
    · exact preparePlugins_keeps ps _ (preparePlugin_keeps p hq)
    · exact preparePlugin_keeps p hq

theorem preparePlugins_copyFatal : ∀ (ps : List GoString) (fs : FileSystem),
    (preparePlugins h b fs ps).2 ≠ some (if h.copyFileRange then .empty else .copy)
  | [], _ => by simp [preparePlugins]
  | p :: ps, fs => by
    rw [preparePlugins_cons]
    by_cases hp : (preparePlugin h b fs p).2 = none
    · rw [if_pos hp]; exact preparePlugins_copyFatal ps _
    · rw [if_neg hp]; exact preparePlugin_copyFatal p

/-- A loop that aborts in `io.Copy` or at its check `n == 0` does so at a plugin that was missing,
and leaves an empty file in its place. -/
theorem preparePlugins_empty : ∀ (ps : List GoString) (fs : FileSystem),
    (preparePlugins h b fs ps).2 = some .empty ∨ (preparePlugins h b fs ps).2 = some .copy →
      ∃ p ∈ ps, fs (pluginDest b p) = none ∧ (preparePlugins h b fs ps).1 (pluginDest b p) = some []
  | [], _, he => by simp [preparePlugins] at he
  | p :: ps, fs, he => by
    rw [preparePlugins_cons] at he ⊢
    split_ifs at he ⊢
    · obtain ⟨p', hp', hn, he'⟩ := preparePlugins_empty ps _ he
      refine ⟨p', List.mem_cons_of_mem _ hp', ?_, he'⟩
      rcases hq : fs (pluginDest b p') with _ | c
      · rfl
      · rw [preparePlugin_keeps p hq] at hn; cases hn
    · exact ⟨p, List.mem_cons_self _ _, preparePlugin_empty p he⟩

/-- The plugins of the loop are distinct, and `FindBinary` finds none of them inside the CNI
directory. -/
structure Separate (h : Host) (b : GoString) (ps : List GoString) : Prop where
  nodup : ps.Nodup
  outside : ∀ p ∈ ps, ∀ p' ∈ ps, h.findBinary p ≠ some (pluginDest b p')

theorem Separate.tail {p : GoString} {ps : List GoString} (hs : Separate h b (p :: ps)) :
    Separate h b ps :=
  ⟨(List.nodup_cons.mp hs.nodup).2, fun q hq q' hq' =>
    hs.outside q (List.mem_cons_of_mem _ hq) q' (List.mem_cons_of_mem _ hq')⟩

theorem Separate.dest_ne {p p' : GoString} {ps : List GoString} (hs : Separate h b (p :: ps))
    (hp' : p' ∈ ps) : pluginDest b p' ≠ pluginDest b p := fun he =>
  (List.nodup_cons.mp hs.nodup).1 (pluginDest_inj.mp he ▸ hp')

theorem Separate.found_ne {p p' src : GoString} {ps : List GoString} (hs : Separate h b (p :: ps))
    (hp' : p' ∈ ps) (hf : h.findBinary p' = some src) : src ≠ pluginDest b p := by
  rintro rfl
  exact hs.outside p' (List.mem_cons_of_mem _ hp') p (List.mem_cons_self _ _) hf

/-- Over separate plugins, the loop completes exactly when each iteration would on the files it
started from. -/
theorem preparePlugins_ok_iff : ∀ (ps : List GoString) (fs : FileSystem), Separate h b ps →
    ((preparePlugins h b fs ps).2 = none ↔ ∀ p ∈ ps, (preparePlugin h b fs p).2 = none)
  | [], _, _ => by simp [preparePlugins]
  | p :: ps, fs, hs => by
    rw [preparePlugins_cons, List.forall_mem_cons]
    split_ifs with hp
    · rw [preparePlugins_ok_iff ps _ hs.tail]
      simp only [hp, true_and]
      refine forall₂_congr fun p' hp' => ?_
      rw [preparePlugin_congr p' (preparePlugin_frame p (hs.dest_ne hp'))
        fun src hf => preparePlugin_frame p (hs.found_ne hp' hf)]
    · exact iff_of_false hp fun hall => hp hall.1

/-- Over separate plugins, every file the loop changes is a missing plugin's, now the binary
`FindBinary` found or an empty file. -/
theorem preparePlugins_files (q : GoString) : ∀ (ps : List GoString) (fs : FileSystem),
    Separate h b ps → (preparePlugins h b fs ps).1 q = fs q ∨
      ∃ p ∈ ps, q = pluginDest b p ∧ fs q = none ∧ ((preparePlugins h b fs ps).1 q = some [] ∨
        ∃ src, h.findBinary p = some src ∧ (preparePlugins h b fs ps).1 q = fs src)
  | [], _, _ => .inl rfl
  | p :: ps, fs, hs => by
    rw [preparePlugins_cons]
    split_ifs
    · rcases preparePlugins_files q ps _ hs.tail with he | ⟨p', hp', rfl, hn, hr⟩
      · rw [he]
        exact (preparePlugin_files fs p q).imp_right fun hp => ⟨p, List.mem_cons_self _ _, hp⟩
      · rw [preparePlugin_frame p (hs.dest_ne hp')] at hn
        refine .inr ⟨p', List.mem_cons_of_mem _ hp', rfl, hn, hr.imp_right ?_⟩
        exact fun ⟨src, hf, he⟩ => ⟨src, hf, he.trans (preparePlugin_frame p (hs.found_ne hp' hf))⟩
    · exact (preparePlugin_files fs p q).imp_right fun hp => ⟨p, List.mem_cons_self _ _, hp⟩

/-- When `FindBinary` finds no plugin inside the CNI directory, `createDirectories` completes exactly
when every plugin it finds, and that is not in place yet, can be hard-linked: the copy fallback
recovers from no failed link. It aborts with "Couldn't copy file" only where `io.Copy` goes through
copy_file_range, and with "File copy is empty!" only where it does not. -/
theorem createDirectories_completes_iff_links (h : Host) (b : GoString) (fs : FileSystem)
    (hout : ∀ p ∈ cniPlugins, ∀ p' ∈ cniPlugins, h.findBinary p ≠ some (pluginDest b p')) :
    ((createDirectories h b fs).2 = none ↔
      ∀ p ∈ cniPlugins, ∀ src, h.findBinary p = some src → fs (pluginDest b p) = none →
        (fs src).isSome ∧ h.linkOk src (pluginDest b p) = true) ∧
      ((createDirectories h b fs).2 = some .copy → h.copyFileRange = true) ∧
      ((createDirectories h b fs).2 = some .empty → h.copyFileRange = false) := by
  have hne : (createDirectories h b fs).2 ≠ some (if h.copyFileRange then .empty else .copy) :=
    preparePlugins_copyFatal _ _
  refine ⟨?_, fun hc => ?_, fun hc => ?_⟩
  · rw [createDirectories, preparePlugins_ok_iff _ _ ⟨by decide, hout⟩]
    exact forall₂_congr fun p _ => preparePlugin_ok_iff p
  · cases hr : h.copyFileRange
    · simp [hr, hc] at hne
    · rfl
  · cases hr : h.copyFileRange
    · rfl
    · simp [hr, hc] at hne

/-- A host with Go 1.15 or later that finds `bridge` under `/opt/` but cannot link it into `/mk`:
`io.Copy` fails through copy_file_range and the start aborts with "Couldn't copy file". -/
theorem cross_device_start_aborts :
    (createDirectories ⟨fun p => some (ascii "/opt/" ++ p), fun _ _ => false, fun _ => true,
        fun _ => true, true⟩ (ascii "/mk")
        fun q => if q = ascii "/opt/bridge" then some [127] else none).2 = some .copy ∧
    (((createDirectories ⟨fun p => some (ascii "/opt/" ++ p), fun _ _ => false, fun _ => true,
        fun _ => true, true⟩ (ascii "/mk")
        fun q => if q = ascii "/opt/bridge" then some [127] else none).2 = none ↔
      ∀ p ∈ cniPlugins, ∀ src, some (ascii "/opt/" ++ p) = some src →
        (fun q => if q = ascii "/opt/bridge" then some [127] else none : FileSystem)
          (pluginDest (ascii "/mk") p) = none →
        ((fun q => if q = ascii "/opt/bridge" then some [127] else none : FileSystem) src).isSome ∧
          false = true) ∧
      ((createDirectories ⟨fun p => some (ascii "/opt/" ++ p), fun _ _ => false, fun _ => true,
          fun _ => true, true⟩ (ascii "/mk")
          fun q => if q = ascii "/opt/bridge" then some [127] else none).2 = some .copy → true = true) ∧
      ((createDirectories ⟨fun p => some (ascii "/opt/" ++ p), fun _ _ => false, fun _ => true,
          fun _ => true, true⟩ (ascii "/mk")
          fun q => if q = ascii "/opt/bridge" then some [127] else none).2 = some .empty →
        true = false)) :=
  ⟨by decide, createDirectories_completes_iff_links _ _ _ (by decide)⟩

/-- When `FindBinary` finds no plugin inside the CNI directory, every file `createDirectories`
changes is a plugin's path in the CNI directory where no file was; it now holds the binary
`FindBinary` found (a hard link) or is empty (left by the copy fallback). No file that exists is
changed or removed. -/
theorem createDirectories_only_links_or_empty (h : Host) (b : GoString) (fs : FileSystem)
    (hout : ∀ p ∈ cniPlugins, ∀ p' ∈ cniPlugins, h.findBinary p ≠ some (pluginDest b p')) (q : GoString) :
    (createDirectories h b fs).1 q = fs q ∨
      ∃ p ∈ cniPlugins, q = pluginDest b p ∧ fs q = none ∧
        ((createDirectories h b fs).1 q = some [] ∨
          ∃ src, h.findBinary p = some src ∧ (createDirectories h b fs).1 q = fs src) :=
  preparePlugins_files q _ _ ⟨by decide, hout⟩

/-- On the same host, `/mk/x` is no plugin's path and stays as it was. -/
theorem cross_device_start_files :
    (createDirectories ⟨fun p => some (ascii "/opt/" ++ p), fun _ _ => false, fun _ => true,
        fun _ => true, false⟩ (ascii "/mk") fun _ => none).1 (ascii "/mk/x") = none ∨
      ∃ p ∈ cniPlugins, ascii "/mk/x" = pluginDest (ascii "/mk") p ∧
        (fun _ => none : FileSystem) (ascii "/mk/x") = none ∧
        ((createDirectories ⟨fun p => some (ascii "/opt/" ++ p), fun _ _ => false, fun _ => true,
            fun _ => true, false⟩ (ascii "/mk") fun _ => none).1 (ascii "/mk/x") = some [] ∨
          ∃ src, some (ascii "/opt/" ++ p) = some src ∧
            (createDirectories ⟨fun p => some (ascii "/opt/" ++ p), fun _ _ => false, fun _ => true,
              fun _ => true, false⟩ (ascii "/mk") fun _ => none).1 (ascii "/mk/x") = none) :=
  createDirectories_only_links_or_empty _ _ _ (by decide) _

theorem restarts_keeps (b : GoString) {q c : GoString} :
    ∀ (hosts : List Host) (fs : FileSystem), fs q = some c → restarts b fs hosts q = some c
  | [], _, hq => hq
  | _ :: hosts, fs, hq => restarts_keeps b hosts _ (preparePlugins_keeps _ fs hq)

/-- A start whose copy fallback aborts with "File copy is empty!" or "Couldn't copy file" leaves an
empty file at a plugin's path where there was none. Every later start finds it with `os.Stat` and
keeps it, whatever its host answers, and when the plugin is `bridge`, `KubeletHandler.Start` in any
later start passes the CNI directory that holds the empty file. -/
theorem empty_plugin_survives_restarts (h : Host) (b : GoString) (fs : FileSystem)
    (he : (createDirectories h b fs).2 = some .empty ∨ (createDirectories h b fs).2 = some .copy) :
    ∃ p ∈ cniPlugins, fs (pluginDest b p) = none ∧ ∀ hosts : List Host,
      restarts b (createDirectories h b fs).1 hosts (pluginDest b p) = some [] ∧
        (p = ascii "bridge" → cniDir (restarts b (createDirectories h b fs).1 hosts) (pathJoin [b, ascii "kube"]) =
          pathJoin [pathJoin [b, ascii "kube"], ascii "kubelet/cni"]) := by
  obtain ⟨p, hp, hn, hempty⟩ : ∃ p ∈ cniPlugins, fs (pluginDest b p) = none ∧
      (createDirectories h b fs).1 (pluginDest b p) = some [] := preparePlugins_empty _ _ he
  refine ⟨p, hp, hn, fun hosts => ⟨restarts_keeps b hosts _ hempty, ?_⟩⟩
  rintro rfl
  rw [cniDir, kubelet_bridge_eq_pluginDest, restarts_keeps b hosts _ hempty]
  rfl

/-- On a host with Go 1.10 that finds `bridge` under `/opt/` but cannot link it into `/mk`, the first
start leaves an empty `bridge`, and so do all later ones. -/
theorem cross_device_bridge_left_empty :
    ∃ p ∈ cniPlugins, (fun q => if q = ascii "/opt/bridge" then some [127] else none : FileSystem)
        (pluginDest (ascii "/mk") p) = none ∧ ∀ hosts : List Host,
      restarts (ascii "/mk") (createDirectories ⟨fun p => some (ascii "/opt/" ++ p), fun _ _ => false,
          fun _ => true, fun _ => true, false⟩ (ascii "/mk")
          fun q => if q = ascii "/opt/bridge" then some [127] else none).1 hosts
          (pluginDest (ascii "/mk") p) = some [] ∧
        (p = ascii "bridge" → cniDir (restarts (ascii "/mk") (createDirectories
            ⟨fun p => some (ascii "/opt/" ++ p), fun _ _ => false, fun _ => true, fun _ => true, false⟩
            (ascii "/mk") fun q => if q = ascii "/opt/bridge" then some [127] else none).1 hosts)
            (pathJoin [ascii "/mk", ascii "kube"]) =
          pathJoin [pathJoin [ascii "/mk", ascii "kube"], ascii "kubelet/cni"]) :=
  empty_plugin_survives_restarts ⟨fun p => some (ascii "/opt/" ++ p), fun _ _ => false, fun _ => true,
    fun _ => true, false⟩ (ascii "/mk") (fun q => if q = ascii "/opt/bridge" then some [127] else none)
    (.inl (by decide))

end Microkube.Setup
