import Ceems.Collector.Discovery
import Ceems.Collector.Regex

/-!
# Discovery on the resource managers' layouts

The spec says where each resource manager puts its units: Slurm's job cgroups
`job_<N>`, below `slurmstepd.scope` in v2 and below `slurm/uid_<U>` in v1, with
the job's tasks under `step_*`; libvirt's VM scopes
`machine-qemu\x2d<K>\x2dinstance-<H>.scope` below `machine.slice`, with the
VM's threads under `libvirt`, `emulator` and `vcpu*`. This module says what
`discover` returns on every tree laid out that way.

From a clean mount point, over names that are plain path elements (as every
name `os.ReadDir` returns is), `filepath.Join` only puts a separator between a
path and a name: the walk reaches the paths `slashDirs` lists
(`walkedDirs_eq_slashDirs`), each of whose elements are the mount point's
followed by names. When the mount point lies below the root
(`MountBelowRoot`), `filepath.Rel` therefore places every one of them relative
to the root (`rel_of_mem_slashDirs`).

A `UnitLayout` names the directories that are unit roots and those right below
a root that hold its child cgroups, and says what the paths around them satisfy;
`layoutOK` checks a whole tree against it. The walk of such a tree splits into
pieces (`pieces_dirs`): a directory outside every unit, or all the directories
of one unit. `UnitLayout.Sound` is what the manager's `idRegex` and `isChild`
must do on the paths of a unit; given it, every piece is as discovery needs it
(`pieces_ok`), and what discovery records is read off the pieces
(`filterMap_rootCgroup`, `flatMap_byID`).

* `discover_units` — on a listable tree with plain names below a mount point
  below the root, which `layoutOK` accepts, with pairwise distinct unit ids,
  `discover` returns one cgroup per unit root, in walk order: its id and uuid
  are the unit's id, its path is the root's, and its children and processes
  are those of every directory at or below the root.

`Ceems.Collector.ManagerLayouts` gives the layouts of Slurm and libvirt.
-/

namespace Ceems
namespace Collector

open Filepath

/-! ### Layouts -/

/-- How a resource manager lays out its units below the mount point. -/
structure UnitLayout where
  /-- The id of the unit whose root directory has this name. -/
  unitID : String → Option String
  /-- The directories right below a unit root that hold its child cgroups. -/
  isChildDir : String → Bool
  /-- What the path of a directory that holds unit roots satisfies. -/
  parentOK : String → Bool
  /-- What the decoded part of a child cgroup's path below its unit root
  satisfies. -/
  tailOK : String → Bool

/-- The directories of one unit: its id, its root, and every directory at or
below the root, in walk order. -/
structure UnitDirs where
  id : String
  root : String
  dirs : List String
  deriving DecidableEq, Repr

/-- A piece of the walk: a directory outside every unit, or the directories of
one unit. -/
inductive Piece where
  | other (p : String)
  | unit (u : UnitDirs)
  deriving DecidableEq, Repr

/-- The directories of a piece, in walk order. -/
def Piece.dirs : Piece → List String
  | .other p => [p]
  | .unit u => u.dirs

/-- The unit of a piece, if it is one. -/
def Piece.unit? : Piece → Option UnitDirs
  | .other _ => none
  | .unit u => some u

/-! ### The walk below a clean path -/

/-- The path `p`, a separator and the name `n`: what `filepath.Join` makes of
a clean path and a plain name (`Filepath.IsClean.join`). -/
def slash (p n : String) : String := p ++ "/" ++ n

mutual
/-- The directories of the tree reached from `p`, in walk order, each path
being its parent's, a separator and its name. -/
def slashDirs : String → Entry → List String
  | _, .file _ => []
  | p, .dir _ (.error _) => [p]
  | p, .dir _ (.ok es) => p :: slashDirs.list p es
/-- The directories of the trees of a listing of `p`, in walk order. -/
def slashDirs.list : String → List Entry → List String
  | _, [] => []
  | p, d :: ds => slashDirs (slash p d.name) d ++ slashDirs.list p ds
end

section Layout

variable (L : UnitLayout)

mutual
/-- The pieces of the walk below `p`. -/
def pieces (p : String) : Entry → List Piece
  | .file _ => []
  | .dir _ (.error _) => [.other p]
  | .dir _ (.ok es) => .other p :: pieces.list p es
/-- The pieces of the walk below the entries of a listing of `p`. -/
def pieces.list (p : String) : List Entry → List Piece
  | [] => []
  | .file _ :: ds => pieces.list p ds
  | .dir n l :: ds =>
    (match L.unitID n with
      | some id => [.unit ⟨id, slash p n, slashDirs (slash p n) (.dir n l)⟩]
      | none => pieces (slash p n) (.dir n l)) ++ pieces.list p ds
end

/-- The units of the tree below `p`, in walk order. -/
def units (p : String) (e : Entry) : List UnitDirs :=
  (pieces L p e).filterMap Piece.unit?

variable (unescapeString : String → Option String) (c : CgroupManager)

/-- The tree of a unit root: every directory right below it holds child
cgroups, and the part of the path of every directory below those that lies
below the root decodes and satisfies `tailOK`. -/
def unitTreeOK : Entry → Bool
  | .dir _ (.ok es) => es.all fun
    | .file _ => true
    | .dir m l => L.isChildDir m &&
      (slashDirs (slash "" m) (.dir m l)).all fun t =>
        match unescapeString t with
        | some dt => L.tailOK dt
        | none => false
  | _ => true

mutual
/-- **The layout.** Every directory outside the units yields no id; a unit
root lies in a directory satisfying `parentOK`, and its tree satisfies
`unitTreeOK`. -/
def layoutOK (p : String) : Entry → Bool
  | .file _ => true
  | .dir _ (.error _) => (cgroupID unescapeString c p).isNone
  | .dir _ (.ok es) => (cgroupID unescapeString c p).isNone && layoutOK.list p es
/-- The layout of the entries of a listing of `p`. -/
def layoutOK.list (p : String) : List Entry → Bool
  | [] => true
  | .file _ :: ds => layoutOK.list p ds
  | .dir n l :: ds =>
    (match L.unitID n with
      | some _ => L.parentOK p && unitTreeOK L unescapeString (.dir n l)
      | none => layoutOK (slash p n) (.dir n l)) && layoutOK.list p ds
end

/-- **What a layout asks of the manager.** The root of a unit in a directory
satisfying `parentOK` carries the unit's id and is no child; a directory below
one of its child-holding directories, whose path below the root decodes to a
`tailOK` string, carries the unit's id and is a child. -/
structure UnitLayout.Sound : Prop where
  root : ∀ {p n id}, L.parentOK p → L.unitID n = some id →
    (∃ s, cgroupID unescapeString c (slash p n) = some (s, id)) ∧
      c.isChild (slash p n) = false
  child : ∀ {p n id m x dt}, L.parentOK p → L.unitID n = some id → L.isChildDir m →
    unescapeString (slash "" m ++ x) = some dt → L.tailOK dt →
    (∃ s, cgroupID unescapeString c (slash p n ++ (slash "" m ++ x)) = some (s, id)) ∧
      c.isChild (slash p n ++ (slash "" m ++ x)) = true

/-- What discovery sees of a piece: a directory outside the units yields no
id; the root of a unit carries its id and is no child, and every other
directory of the unit carries its id and is a child. -/
def PieceOK : Piece → Prop
  | .other p => cgroupID unescapeString c p = none
  | .unit u => ∃ desc, u.dirs = u.root :: desc ∧
      (∃ s, cgroupID unescapeString c u.root = some (s, u.id)) ∧ c.isChild u.root = false ∧
      ∀ q ∈ desc, (∃ s, cgroupID unescapeString c q = some (s, u.id)) ∧ c.isChild q = true

/-- The decoded and relative path `discover` records for the directory `q`. -/
def cgroupPathOf (q : String) : CgroupPath :=
  ⟨(unescapeString q).getD "", (Filepath.rel c.root q).toOption.getD ""⟩

/-- The cgroup of a unit: its id as id and uuid, the root's path, and the
paths and processes of all its directories. -/
def unitCgroup (host : Host) (u : UnitDirs) : Cgroup :=
  { id := u.id, uuid := u.id, procs := u.dirs.flatMap (procsIn host),
    path := cgroupPathOf unescapeString c u.root,
    children := u.dirs.map (cgroupPathOf unescapeString c) }

end Layout

/-! ### The walk of a laid-out tree -/

theorem slashDirs_ok (p n : String) (es : List Entry) :
    slashDirs p (.dir n (.ok es)) = p :: es.flatMap fun d => slashDirs (slash p d.name) d := by
  rw [slashDirs]
  congr 1
  induction es with
  | nil => rfl
  | cons d ds ih => rw [slashDirs.list, ih, List.flatMap_cons]

theorem dirsOf_append (L₁ L₂ : List (String × Entry)) :
    dirsOf (L₁ ++ L₂) = dirsOf L₁ ++ dirsOf L₂ :=
  List.filterMap_append _ _ _

mutual
/-- **The walk from a clean path.** When every name below is a plain path
element, the walk from a clean path reaches the directories `slashDirs`
lists. -/
theorem walkedDirs_eq_slashDirs : ∀ {p : String} (e : Entry), IsClean p → plainNames e = true →
    walkedDirs p e = slashDirs p e
  | _, .file _, _, _ => rfl
  | _, .dir _ (.error _), _, _ => rfl
  | p, .dir n (.ok es), hp, hn => by
    show dirsOf ((p, _) :: visits.list p es) = p :: slashDirs.list p es
    rw [dirsOf_cons]
    exact congrArg (p :: ·) (walkedDirs_eq_slashDirs.list es hp hn)
theorem walkedDirs_eq_slashDirs.list : ∀ {p : String} (es : List Entry), IsClean p →
    plainNames.list es = true → dirsOf (visits.list p es) = slashDirs.list p es
  | _, [], _, _ => rfl
  | p, d :: ds, hp, hn => by
    simp only [plainNames.list, Bool.and_eq_true, decide_eq_true_eq] at hn
    obtain ⟨hj, hc, -⟩ := hp.join hn.1.1
    rw [visits.list, dirsOf_append, slashDirs.list, hj]
    exact congrArg₂ (· ++ ·) (walkedDirs_eq_slashDirs d hc hn.1.2) (walkedDirs_eq_slashDirs.list ds hp hn.2)
end

mutual
/-- Below a clean path with plain names, the elements of every directory the
walk reaches are the path's followed by plain elements. -/
theorem relElems_of_mem_slashDirs : ∀ {p q : String} (e : Entry), IsClean p → plainNames e = true →
    q ∈ slashDirs p e → ∃ ns, (∀ n ∈ ns, PlainElem n) ∧ relElems q = relElems p ++ ns
  | _, _, .file _, _, _, hq => absurd hq (List.not_mem_nil _)
  | _, _, .dir _ (.error _), _, _, hq => ⟨[], by simp, by rw [List.mem_singleton.mp hq, List.append_nil]⟩
  | p, q, .dir _ (.ok es), hp, hn, hq => by
    rw [slashDirs] at hq
    rcases List.mem_cons.mp hq with rfl | hq
    · exact ⟨[], by simp, by rw [List.append_nil]⟩
    · exact relElems_of_mem_slashDirs.list es hp hn hq
theorem relElems_of_mem_slashDirs.list : ∀ {p q : String} (es : List Entry), IsClean p →
    plainNames.list es = true → q ∈ slashDirs.list p es →
      ∃ ns, (∀ n ∈ ns, PlainElem n) ∧ relElems q = relElems p ++ ns
  | _, _, [], _, _, hq => absurd hq (List.not_mem_nil _)
  | p, q, d :: ds, hp, hn, hq => by
    simp only [plainNames.list, Bool.and_eq_true, decide_eq_true_eq] at hn
    rw [slashDirs.list] at hq
    rcases List.mem_append.mp hq with hq | hq
    · obtain ⟨-, hc, hrel⟩ := hp.join hn.1.1
      obtain ⟨ns, hns, hrq⟩ := relElems_of_mem_slashDirs d hc hn.1.2 hq
      refine ⟨d.name :: ns, fun n hn' => ?_, by rw [hrq, hrel, List.append_assoc]; rfl⟩
      rcases List.mem_cons.mp hn' with rfl | hn'
      exacts [hn.1.1, hns n hn']
    · exact relElems_of_mem_slashDirs.list ds hp hn.2 hq
end

/-- The mount point is a clean path below the root: its elements are the
root's followed by plain elements. -/
def MountBelowRoot (c : CgroupManager) : Prop :=
  IsClean c.mountPoint ∧
    ∃ k, k ≠ [] ∧ (∀ e ∈ k, PlainElem e) ∧ relElems c.mountPoint = relElems c.root ++ k

/-- **Every directory below the mount point is placed relative to the root.** -/
theorem rel_of_mem_slashDirs {c : CgroupManager} (hc : MountBelowRoot c) {e : Entry}
    (hn : plainNames e = true) {q : String} (hq : q ∈ slashDirs c.mountPoint e) :
    ∃ r, Filepath.rel c.root q = .ok r := by
  obtain ⟨hmp, k, hk, hkp, hrel⟩ := hc
  obtain ⟨ns, hns, hrq⟩ := relElems_of_mem_slashDirs e hmp hn hq
  refine ⟨_, @rel_below _ _ (k ++ ns) (by simp [hk]) (fun x hx => ?_) (by rw [hrq, hrel, List.append_assoc])⟩
  rcases List.mem_append.mp hx with hx | hx
  exacts [(hkp x hx).1, (hns x hx).1]

theorem slash_append (a b n : String) : slash (a ++ b) n = a ++ slash b n := by
  simp only [slash, String.append_assoc]

mutual
/-- The walk from `a ++ b` is the walk from `b` with `a` put in front. -/
theorem slashDirs_append_path :
    ∀ (a b : String) (e : Entry), slashDirs (a ++ b) e = (slashDirs b e).map (a ++ ·)
  | _, _, .file _ => rfl
  | _, _, .dir _ (.error _) => rfl
  | a, b, .dir _ (.ok es) => by
    rw [slashDirs, slashDirs, List.map_cons, slashDirs_append_path.list a b es]
theorem slashDirs_append_path.list :
    ∀ (a b : String) (es : List Entry),
      slashDirs.list (a ++ b) es = (slashDirs.list b es).map (a ++ ·)
  | _, _, [] => rfl
  | a, b, d :: ds => by
    rw [slashDirs.list, slashDirs.list, slash_append, slashDirs_append_path a (slash b d.name) d,
      slashDirs_append_path.list a b ds, List.map_append]
end

section Layout

variable (L : UnitLayout)

mutual
/-- **The walk splits into pieces.** -/
theorem pieces_dirs : ∀ (p : String) (e : Entry), (pieces L p e).flatMap Piece.dirs = slashDirs p e
  | _, .file _ => rfl
  | _, .dir _ (.error _) => rfl
  | p, .dir n (.ok es) => by
    rw [pieces, List.flatMap_cons, slashDirs_ok, pieces.list_dirs p es]
    rfl
theorem pieces.list_dirs : ∀ (p : String) (es : List Entry),
    (pieces.list L p es).flatMap Piece.dirs = es.flatMap fun d => slashDirs (slash p d.name) d
  | _, [] => rfl
  | p, .file _ :: ds => by rw [pieces.list, pieces.list_dirs p ds, List.flatMap_cons]; rfl
  | p, .dir n l :: ds => by
    rw [pieces.list, List.flatMap_append, pieces.list_dirs p ds, List.flatMap_cons]
    congr 1
    cases L.unitID n with
    | some id => simp [Piece.dirs, Entry.name]
    | none => exact pieces_dirs (slash p n) (.dir n l)
end

variable (unescapeString : String → Option String) (c : CgroupManager)

/-- The directories of a unit's tree below its root: each lies below a
child-holding directory, and its path is the root's path followed by the part
the layout checks. -/
theorem mem_unit_desc {r : String} {es : List Entry} {q : String}
    (h : q ∈ es.flatMap fun d => slashDirs (slash r d.name) d) :
    ∃ m l x, Entry.dir m l ∈ es ∧ slash "" m ++ x ∈ slashDirs (slash "" m) (.dir m l) ∧
      q = r ++ (slash "" m ++ x) := by
  obtain ⟨d, hd, hq⟩ := List.mem_flatMap.mp h
  cases d with
  | file _ => exact absurd hq (List.not_mem_nil _)
  | dir m l =>
    have hr : slash r m = r ++ slash "" m := by
      rw [← slash_append, String.append_empty]
    have hw : slashDirs (slash "" m) (.dir m l) =
        (slashDirs "" (.dir m l)).map (slash "" m ++ ·) := by
      simpa using slashDirs_append_path (slash "" m) "" (.dir m l)
    rw [Entry.name, hr, slashDirs_append_path, List.mem_map] at hq
    obtain ⟨t, ht, rfl⟩ := hq
    rw [hw, List.mem_map] at ht
    obtain ⟨x, hx, rfl⟩ := ht
    exact ⟨m, l, x, hd, hw ▸ List.mem_map_of_mem _ hx, rfl⟩

/-- The pieces of one unit satisfy `PieceOK`. -/
theorem unit_pieceOK (hs : L.Sound unescapeString c) {p n id : String}
    {l : Except FsError (List Entry)} (hp : L.parentOK p) (hu : L.unitID n = some id)
    (ht : unitTreeOK L unescapeString (.dir n l)) :
    PieceOK unescapeString c (.unit ⟨id, slash p n, slashDirs (slash p n) (.dir n l)⟩) := by
  obtain ⟨hid, hch⟩ := hs.root hp hu
  cases l with
  | error err => exact ⟨[], rfl, hid, hch, by simp⟩
  | ok es =>
    refine ⟨_, slashDirs_ok _ n es, hid, hch, fun q hq => ?_⟩
    obtain ⟨m, l', x, hd, hx, rfl⟩ := mem_unit_desc hq
    simp only [unitTreeOK, List.all_eq_true] at ht
    have hd' := ht _ hd
    simp only [Bool.and_eq_true, List.all_eq_true] at hd'
    have htail := hd'.2 _ hx
    split at htail
    · exact hs.child hp hu hd'.1 (by assumption) htail
    · cases htail

mutual
/-- **Every piece of a laid-out tree is as discovery needs it.** -/
theorem pieces_ok (hs : L.Sound unescapeString c) :
    ∀ (p : String) (e : Entry), layoutOK L unescapeString c p e = true →
      ∀ pc ∈ pieces L p e, PieceOK unescapeString c pc
  | _, .file _, _ => by simp [pieces]
  | p, .dir _ (.error _), h => by
    simp only [layoutOK, Option.isNone_iff_eq_none] at h
    simpa [pieces, PieceOK] using h
  | p, .dir _ (.ok es), h => by
    simp only [layoutOK, Bool.and_eq_true, Option.isNone_iff_eq_none] at h
    simp only [pieces, List.mem_cons, forall_eq_or_imp]
    exact ⟨h.1, pieces.list_ok hs p es h.2⟩
theorem pieces.list_ok (hs : L.Sound unescapeString c) :
    ∀ (p : String) (es : List Entry), layoutOK.list L unescapeString c p es = true →
      ∀ pc ∈ pieces.list L p es, PieceOK unescapeString c pc
  | _, [], _ => by simp [pieces.list]
  | p, .file _ :: ds, h => pieces.list_ok hs p ds h
  | p, .dir n l :: ds, h => by
    rw [layoutOK.list, Bool.and_eq_true] at h
    rw [pieces.list]
    intro pc hpc
    rcases List.mem_append.mp hpc with hpc | hpc
    · cases hu : L.unitID n with
      | some id =>
        rw [hu] at h hpc
        simp only [Bool.and_eq_true] at h
        rw [List.mem_singleton.mp hpc]
        exact unit_pieceOK L unescapeString c hs h.1.1 hu h.1.2
      | none =>
        rw [hu] at h hpc
        exact pieces_ok hs (slash p n) (.dir n l) h.1 pc hpc
    · exact pieces.list_ok hs p ds h.2 pc hpc
end

/-! ### What discovery returns on the pieces -/

theorem cgroupID_some {q s id : String} (h : cgroupID unescapeString c q = some (s, id)) :
    unescapeString q = some s := by
  unfold cgroupID at h
  cases hu : unescapeString q with
  | none => simp [hu] at h
  | some s' =>
    simp only [hu, Option.bind_eq_bind, Option.some_bind] at h
    split_ifs at h
    simp only [Option.some.injEq, Prod.mk.injEq] at h
    rw [h.1]

/-- The contribution of the directory `q` to the unit `id`, for a `k` that
says what a directory carrying the id contributes. -/
def byID {β : Type} (k : String → List β) (id q : String) : List β :=
  match cgroupID unescapeString c q with
  | some (_, id') => if id = id' then k q else []
  | none => []

theorem pathID_of_rel {q r : String} (hr : Filepath.rel c.root q = .ok r) :
    pathID unescapeString c q = (cgroupID unescapeString c q).map fun x => (⟨x.1, r⟩, x.2) := by
  simp only [pathID, hr]

/-- Where `Rel` succeeds, the path `discover` records is the one
`cgroupPathOf` names. -/
theorem pathID_eq_some {q r s id : String} (hr : Filepath.rel c.root q = .ok r)
    (h : cgroupID unescapeString c q = some (s, id)) :
    pathID unescapeString c q = some (cgroupPathOf unescapeString c q, id) := by
  simp [pathID_of_rel unescapeString c hr, h, cgroupPathOf, cgroupID_some unescapeString c h, hr,
    Except.toOption]

theorem procsOf_eq (host : Host) {q r : String} (hr : Filepath.rel c.root q = .ok r) (id : String) :
    procsOf unescapeString c host id q = byID unescapeString c (procsIn host) id q := by
  unfold procsOf byID
  rw [pathID_of_rel unescapeString c hr]
  cases cgroupID unescapeString c q <;> rfl

theorem childOf_eq {q r : String} (hr : Filepath.rel c.root q = .ok r) (id : String) :
    childOf unescapeString c id q = byID unescapeString c (fun q => [cgroupPathOf unescapeString c q]) id q := by
  unfold childOf byID
  cases h : cgroupID unescapeString c q with
  | none => simp [pathID_of_rel unescapeString c hr, h]
  | some x => rw [pathID_eq_some unescapeString c hr (show _ = some (x.1, x.2) from h)]

/-- **A unit's contribution.** Over pieces as discovery needs them, the
directories carrying the id `id` contribute exactly what the units of that id
contribute. -/
theorem flatMap_byID {β : Type} (k : String → List β) (id : String) :
    ∀ pcs : List Piece, (∀ pc ∈ pcs, PieceOK unescapeString c pc) →
      (pcs.flatMap Piece.dirs).flatMap (byID unescapeString c k id) =
        (pcs.filterMap Piece.unit?).flatMap fun u => if id = u.id then u.dirs.flatMap k else []
  | [], _ => rfl
  | .other p :: pcs, h => by
    simp only [List.forall_mem_cons] at h
    have hp : cgroupID unescapeString c p = none := h.1
    simp [Piece.dirs, Piece.unit?, byID, hp, flatMap_byID k id pcs h.2]
  | .unit u :: pcs, h => by
    simp only [List.forall_mem_cons] at h
    obtain ⟨⟨desc, hd, ⟨s, hs⟩, -, hdesc⟩, h⟩ := h
    have hq : ∀ q ∈ u.dirs, byID unescapeString c k id q = if id = u.id then k q else [] := by
      intro q hq
      rcases List.mem_cons.mp (hd ▸ hq) with rfl | hq
      · simp [byID, hs]
      · obtain ⟨⟨s', hs'⟩, -⟩ := hdesc q hq
        simp [byID, hs']
    have hu : u.dirs.flatMap (byID unescapeString c k id) =
        if id = u.id then u.dirs.flatMap k else [] := by
      rw [List.flatMap_congr hq]
      split <;> simp
    simp only [List.flatMap_cons, List.flatMap_append, Piece.dirs, hu, flatMap_byID k id pcs h,
      List.filterMap_cons, Piece.unit?]

/-- Among units with pairwise distinct ids, the one of a given id. -/
theorem flatMap_ite_id {β : Type} (f : UnitDirs → List β) :
    ∀ (us : List UnitDirs), (us.map UnitDirs.id).Nodup → ∀ u ∈ us,
      (us.flatMap fun v => if u.id = v.id then f v else []) = f u
  | [], _, _, hu => absurd hu (List.not_mem_nil _)
  | v :: us, hnd, u, hu => by
    rw [List.map_cons, List.nodup_cons] at hnd
    rw [List.flatMap_cons]
    rcases List.mem_cons.mp hu with rfl | hu
    · rw [if_pos rfl, List.flatMap_eq_nil_iff.mpr, List.append_nil]
      intro w hw
      rw [if_neg]
      exact fun h => hnd.1 (h ▸ List.mem_map_of_mem _ hw)
    · rw [if_neg, flatMap_ite_id f us hnd.2 u hu, List.nil_append]
      exact fun h => hnd.1 (h ▸ List.mem_map_of_mem _ hu)

/-- The root cgroup `discoverSpec` records for the directory `p`, when the
directories walked are `G` and `Rel` places each of them relative to the
root. -/
def rootCgroup (host : Host) (G : List String) (p : String) : Option Cgroup :=
  match cgroupID unescapeString c p with
  | some (_, id) =>
    if c.isChild p then none
    else some { id, uuid := id, path := cgroupPathOf unescapeString c p,
                procs := G.flatMap (byID unescapeString c (procsIn host) id),
                children := G.flatMap (byID unescapeString c (fun q => [cgroupPathOf unescapeString c q]) id) }
  | none => none

theorem discoverSpec_eq (host : Host) (G : List String)
    (hrel : ∀ q ∈ G, ∃ r, Filepath.rel c.root q = .ok r) :
    discoverSpec unescapeString c host G = G.filterMap (rootCgroup unescapeString c host G) := by
  have hprocs : ∀ id, G.flatMap (procsOf unescapeString c host id) =
      G.flatMap (byID unescapeString c (procsIn host) id) := fun id =>
    List.flatMap_congr fun q hq => procsOf_eq unescapeString c host (hrel q hq).choose_spec id
  have hchildren : ∀ id, G.flatMap (childOf unescapeString c id) =
      G.flatMap (byID unescapeString c (fun q => [cgroupPathOf unescapeString c q]) id) := fun id =>
    List.flatMap_congr fun q hq => childOf_eq unescapeString c (hrel q hq).choose_spec id
  refine List.filterMap_congr fun p hp => ?_
  unfold rootCgroup
  cases h : cgroupID unescapeString c p with
  | none => simp [pathID_of_rel unescapeString c (hrel p hp).choose_spec, h]
  | some x =>
    rw [pathID_eq_some unescapeString c (hrel p hp).choose_spec (show _ = some (x.1, x.2) from h)]
    simp only [hprocs, hchildren]

/-- The root cgroups `discoverSpec` records, over pieces as discovery needs
them: one per unit, at its root. -/
theorem filterMap_rootCgroup (host : Host) (G : List String) :
    ∀ pcs : List Piece, (∀ pc ∈ pcs, PieceOK unescapeString c pc) →
      (pcs.flatMap Piece.dirs).filterMap (rootCgroup unescapeString c host G) =
        (pcs.filterMap Piece.unit?).map fun u =>
          ({ id := u.id, uuid := u.id, path := cgroupPathOf unescapeString c u.root,
             procs := G.flatMap (byID unescapeString c (procsIn host) u.id),
             children := G.flatMap (byID unescapeString c (fun q => [cgroupPathOf unescapeString c q]) u.id) } :
            Cgroup)
  | [], _ => rfl
  | .other p :: pcs, h => by
    simp only [List.forall_mem_cons] at h
    have hp : cgroupID unescapeString c p = none := h.1
    simp [Piece.dirs, Piece.unit?, rootCgroup, hp, filterMap_rootCgroup host G pcs h.2]
  | .unit u :: pcs, h => by
    simp only [List.forall_mem_cons] at h
    obtain ⟨⟨desc, hd, ⟨s, hs⟩, hr, hdesc⟩, h⟩ := h
    have hdesc' : desc.filterMap (rootCgroup unescapeString c host G) = [] := by
      rw [List.filterMap_eq_nil_iff]
      intro q hq
      obtain ⟨⟨s', hs'⟩, hc⟩ := hdesc q hq
      simp [rootCgroup, hs', hc]
    simp only [List.flatMap_cons, Piece.dirs, hd, List.filterMap_append, List.filterMap_cons,
      rootCgroup, hs, hr, hdesc', filterMap_rootCgroup host G pcs h, Piece.unit?, List.map_cons]
    rfl

/-- **Discovery on a laid-out tree.** Below a mount point that lies below the
root, on a tree every directory of which can be listed, every name of which is
a plain path element and which `layoutOK` accepts, with pairwise distinct unit
ids, `discover` returns one cgroup per unit root, in walk order, whose id and
uuid are the unit's id, whose path is the root's, and whose children and
processes are those of every directory at or below the root. -/
theorem discover_units (hs : L.Sound unescapeString c) (hmp : MountBelowRoot c) (host : Host)
    (e : Entry) (hl : listable e = true) (hn : plainNames e = true)
    (hlay : layoutOK L unescapeString c c.mountPoint e = true)
    (hnd : ((units L c.mountPoint e).map UnitDirs.id).Nodup) :
    discover unescapeString c host (.ok e) =
      .ok ((units L c.mountPoint e).map (unitCgroup unescapeString c host)) := by
  have hok := pieces_ok L unescapeString c hs c.mountPoint e hlay
  unfold units at hnd ⊢
  rw [discover_of_listable unescapeString c host e hl, walkedDirs_eq_slashDirs e hmp.1 hn,
    discoverSpec_eq unescapeString c host _ fun q hq => rel_of_mem_slashDirs hmp hn hq, ← pieces_dirs L,
    filterMap_rootCgroup unescapeString c host _ _ hok]
  congr 1
  refine List.map_congr_left fun u hu => ?_
  have hp := flatMap_byID unescapeString c (procsIn host) u.id _ hok
  have hc := flatMap_byID unescapeString c (fun q => [cgroupPathOf unescapeString c q]) u.id _ hok
  rw [unitCgroup, hp, hc, flatMap_ite_id _ _ hnd u hu,
    flatMap_ite_id _ _ hnd u hu, List.map_eq_flatMap]

end Layout

end Collector
end Ceems
