import Ceems.Collector.Cgroup

/-!
# Resource managers: mount points, id regexes and child tests

`NewCgroupManager` builds the discovery policy of the two supported resource
managers: where their cgroups live (`setMountPoint`), how a unit's id is read
off a cgroup path (`slurmCgroupPathRegex`, `libvirtCgroupPathRegex`) and
which paths are child cgroups of a unit (`isChild`).

The two regexes are modelled by what RE2's `FindStringSubmatch` returns on
them, which is the match a backtracking matcher reports first (leftmost-first
semantics):

* `^.*/slurm(?:.*?)/job_([0-9]+)(?:.*$)` — the greedy `^.*` tries the longest
  prefix first, so the last `/slurm` that some `/job_<digit>` follows wins; the
  lazy `(?:.*?)` then stops at the first `/job_` after it; `[0-9]+` takes all
  the digits there;
* `^.*/(?:.+?)-qemu-(?:[0-9]+)-(instance-[0-9a-f]+)(?:.*$)` — the greedy `^.*`
  picks the last `/` that a `-qemu-<digits>-instance-<hex>` follows at least
  one character later; the lazy `(?:.+?)` stops at the first such tail; the
  group is `instance-` and all the hex digits there.

In both, `.` does not match a newline and the match runs from the start to
the end of the path, so a path holding a newline does not match. The whole
match is the path itself.

`unescapeString` is not part of these sources; it is modelled from the spec,
which has it decode the `\xHH` escapes libvirt writes.
-/

namespace Ceems
namespace Collector

/-! ### Unescaping -/

/-- The value of a hexadecimal digit. -/
def hexVal (c : Char) : Option Nat :=
  if c.isDigit then some (c.toNat - '0'.toNat)
  else if 'a' ≤ c ∧ c ≤ 'f' then some (c.toNat - 'a'.toNat + 10)
  else if 'A' ≤ c ∧ c ≤ 'F' then some (c.toNat - 'A'.toNat + 10)
  else none

/-- Decode `\xHH` escapes; any other backslash is an invalid escape. -/
def unescapeChars : List Char → Option (List Char)
  | [] => some []
  | '\\' :: 'x' :: h₁ :: h₂ :: rest =>
    match hexVal h₁, hexVal h₂ with
    | some a, some b => (unescapeChars rest).map (Char.ofNat (16 * a + b) :: ·)
    | _, _ => none
  | '\\' :: _ => none
  | c :: rest => (unescapeChars rest).map (c :: ·)

/-- Modelled from the spec: `unescapeString`, missing from these sources,
decodes the escapes libvirt writes in cgroup names ("Unicode-escaped
characters (as libvirt writes them, e.g. `\x2d`) must be decoded before
matching"), and fails on a malformed escape. -/
def unescapeString (s : String) : Option String :=
  (unescapeChars s.toList).map String.mk

/-! ### `slurmCgroupPathRegex` -/

/-- `/job_` followed by at least one digit: the digits `[0-9]+` takes. -/
def jobDigits : List Char → Option (List Char)
  | '/' :: 'j' :: 'o' :: 'b' :: '_' :: rest =>
    if (rest.takeWhile Char.isDigit).isEmpty then none else some (rest.takeWhile Char.isDigit)
  | _ => none

/-- The lazy `(?:.*?)/job_([0-9]+)`: the digits after the first `/job_<digit>`. -/
def firstJob : List Char → Option (List Char)
  | [] => none
  | c :: cs => (jobDigits (c :: cs)).orElse fun _ => firstJob cs

/-- The greedy `^.*/slurm` before `firstJob`: the last `/slurm` that a
`/job_<digit>` follows wins. -/
def slurmMatch : List Char → Option (List Char)
  | [] => none
  | c :: cs =>
    (slurmMatch cs).orElse fun _ =>
      if "/slurm".toList.isPrefixOf (c :: cs) then firstJob ((c :: cs).drop 6) else none

/-- `slurmCgroupPathRegex.FindStringSubmatch`. -/
def slurmCgroupPathRegex (s : String) : List String :=
  if '\n' ∈ s.toList then []
  else match slurmMatch s.toList with
    | some id => [s, ⟨id⟩]
    | none => []

/-! ### `libvirtCgroupPathRegex` -/

/-- A lower-case hexadecimal digit, `[0-9a-f]`. -/
def isHexDigit (c : Char) : Bool := c.isDigit || ('a' ≤ c && c ≤ 'f')

/-- `-qemu-<digits>-instance-<hex>`: the group `instance-<hex>`, with all the
hex digits. -/
def qemuTail : List Char → Option (List Char)
  | '-' :: 'q' :: 'e' :: 'm' :: 'u' :: '-' :: rest =>
    if (rest.takeWhile Char.isDigit).isEmpty then none
    else
      match rest.dropWhile Char.isDigit with
      | '-' :: 'i' :: 'n' :: 's' :: 't' :: 'a' :: 'n' :: 'c' :: 'e' :: '-' :: hex =>
        if (hex.takeWhile isHexDigit).isEmpty then none
        else some ("instance-".toList ++ hex.takeWhile isHexDigit)
      | _ => none
  | _ => none

/-- The lazy `(?:.+?)` before the tail: the first position carrying one. -/
def firstQemu : List Char → Option (List Char)
  | [] => none
  | c :: cs => (qemuTail (c :: cs)).orElse fun _ => firstQemu cs

/-- The greedy `^.*/`: the last `/` that a tail follows at least one character
later wins. -/
def libvirtMatch : List Char → Option (List Char)
  | [] => none
  | c :: cs => (libvirtMatch cs).orElse fun _ => if c = '/' then firstQemu (cs.drop 1) else none

/-- `libvirtCgroupPathRegex.FindStringSubmatch`. -/
def libvirtCgroupPathRegex (s : String) : List String :=
  if '\n' ∈ s.toList then []
  else match libvirtMatch s.toList with
    | some id => [s, ⟨id⟩]
    | none => []

/-! ### `NewCgroupManager` -/

/-- `setMountPoint`: where the resource manager's cgroups live, and, for
cgroups v1, the root shifted to the active controller's hierarchy. -/
def setMountPoint (c : CgroupManager) : CgroupManager :=
  if c.manager = "slurm" then
    if c.mode = .unified then { c with mountPoint := Filepath.join [c.root, c.slice, c.scope] }
    else { c with mountPoint := Filepath.join [c.root, c.activeController, c.manager],
                  root := Filepath.join [c.root, c.activeController] }
  else if c.manager = "libvirt" then
    if c.mode = .unified then { c with mountPoint := Filepath.join [c.root, c.slice] }
    else { c with mountPoint := Filepath.join [c.root, c.activeController, c.slice],
                  root := Filepath.join [c.root, c.activeController] }
  else { c with mountPoint := c.root }

/-- The mode discovery runs in: the forced version when one is given, the
host's mode otherwise. -/
def cgroupMode (forceCgroupsVersion : String) (hostMode : CGMode) : CGMode :=
  if (forceCgroupsVersion = "" ∧ hostMode = .unified) ∨ forceCgroupsVersion = "v2" then .unified
  else if forceCgroupsVersion = "v1" then .legacy
  else hostMode

/-- The manager `NewCgroupManager("slurm")` builds in `mode`. -/
def slurmCgroupManager (mode : CGMode) (cgroupfsPath activeController : String) :
    CgroupManager :=
  setMountPoint
    { mode, root := cgroupfsPath,
      slice := if mode = .unified then "system.slice" else "slurm",
      scope := if mode = .unified then "slurmstepd.scope" else "",
      activeController := if mode = .unified then "" else activeController,
      mountPoint := "", manager := "slurm",
      idRegex := slurmCgroupPathRegex,
      isChild := fun p => containsStr p "/step_" }

/-- The manager `NewCgroupManager("libvirt")` builds in `mode`; in v1 the child
cgroups `emulator` and `vcpu*` lie flat in the VM's scope, in v2 inside its
`libvirt` child. -/
def libvirtCgroupManager (mode : CGMode) (cgroupfsPath activeController : String) :
    CgroupManager :=
  setMountPoint
    { mode, root := cgroupfsPath, slice := "machine.slice", scope := "",
      activeController := if mode = .unified then "" else activeController,
      mountPoint := "", manager := "libvirt",
      idRegex := libvirtCgroupPathRegex,
      isChild := fun p =>
        containsStr p "/libvirt" || containsStr p "/emulator" || containsStr p "/vcpu" }

/-- `NewCgroupManager(name)`, given the flags it reads (`--collector.cgroups.force-version`,
`--path.cgroupfs`, `--collector.cgroup.active-subsystem`) and the host's
`cgroups.Mode()`. -/
def newCgroupManager (name forceCgroupsVersion : String) (hostMode : CGMode)
    (cgroupfsPath activeController : String) : Except String CgroupManager :=
  let mode := cgroupMode forceCgroupsVersion hostMode
  if name = "slurm" then .ok (slurmCgroupManager mode cgroupfsPath activeController)
  else if name = "libvirt" then .ok (libvirtCgroupManager mode cgroupfsPath activeController)
  else .error "unknown resource manager"

example : slurmCgroupPathRegex "/sys/fs/cgroup/system.slice/slurmstepd.scope/job_211/step_0" =
    ["/sys/fs/cgroup/system.slice/slurmstepd.scope/job_211/step_0", "211"] := by decide

example : libvirtCgroupPathRegex "/sys/fs/cgroup/machine.slice/machine-qemu-2-instance-0a.scope" =
    ["/sys/fs/cgroup/machine.slice/machine-qemu-2-instance-0a.scope", "instance-0a"] := by decide

end Collector
end Ceems
