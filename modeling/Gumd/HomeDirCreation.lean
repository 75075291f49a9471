import Gumd.HomeDirCopy
import Gumd.HomeDirDeletion

/-!
# Creating a home directory

The directories of a new home path are made, then the skeleton is copied.  The copy is exact and
touches nothing else as long as the skeleton has no symbolic links, and the modes of the directories
are those of the skeleton, whatever the umask.
-/

namespace Gumd

open FileTree FileTree.Tree TotalWp

variable {t t' : Tree FileAttr Str} {w : FileWorld} {skel home : FilePath} {source place : Place}

/-! ## A new home path -/

/-- Nothing lies at the home path yet: behind the path to a directory it has names of entries that
have to be made, the last one at `place`. -/
def NewHome (t : Tree FileAttr Str) (home : FilePath) (place : Place) : Prop :=
  ∃ known n rest d, home = known ++ n :: rest ∧ place = rest.reverse ++ n :: d ∧
    t.locate true known = some d ∧ t.kindAt d = some .dir ∧ t.kindAt (n :: d) = none ∧
    ∀ m ∈ n :: rest, IsName m

/-- Directories are made on the way to a place. -/
structure Extended (t : Tree FileAttr Str) (place : Place) (t' : Tree FileAttr Str) : Prop where
  kept : ∀ p node, t.lookup p = some node → t'.lookup p = some node
  new : ∀ p, t.kindAt p = none → t'.kindAt p ≠ none → p <:+ place ∧ t'.kindAt p = some .dir

namespace Extended

theorem refl (t : Tree FileAttr Str) (place : Place) : Extended t place t := by
  constructor
  · exact fun _ _ found => found
  · exact fun p missing found => absurd missing found

theorem grows (extended : Extended t place t') : Grows t t' := by
  intro p k found
  obtain ⟨attr, here⟩ := kindAt_eq_some_iff.mp found
  exact kindAt_of_lookup (extended.kept p _ here)

theorem attach {t'' : Tree FileAttr Str} {p : Place} {attr : FileAttr}
    (extended : Extended t place t') (free : t'.kindAt p = none)
    (attached : t'.attach p ⟨.dir, attr⟩ = some t'') (onWay : p <:+ place) :
    Extended t place t'' := by
  obtain ⟨-, -, -, -, -, -, found⟩ := attach_spec attached
  constructor
  · intro q node here
    have other : q ≠ p := by
      intro same
      rw [← same, kindAt_eq_none_iff, extended.kept q node here] at free
      cases free
    rw [found, if_neg other]
    exact extended.kept q node here
  · intro q missing present
    by_cases same : q = p
    · rw [same, kindAt, found, if_pos rfl]
      exact ⟨onWay, rfl⟩
    · have old : t''.kindAt q = t'.kindAt q := by
        rw [kindAt, found, if_neg same, kindAt]
      rw [old] at present ⊢
      exact extended.new q missing present

/-- Below another place nothing is made. -/
theorem lookup_source (extended : Extended t place t') (apart : ¬source <:+ place) (r : Place) :
    t'.lookup (r ++ source) = t.lookup (r ++ source) := by
  cases found : t.lookup (r ++ source) with
  | some node => exact extended.kept _ _ found
  | none =>
      by_contra made
      have present : t'.kindAt (r ++ source) ≠ none := by
        rw [Ne, kindAt_eq_none_iff]
        exact made
      have onWay := (extended.new _ (kindAt_eq_none_iff.mpr found) present).1
      exact apart ((List.suffix_append r source).trans onWay)

end Extended

/-- The names of the home path that have to be made lead where they say. -/
theorem locate_made {known names : FilePath} {n : Name} {d q : Place}
    (extended : Extended t place t') (leads : t.locate true known = some d)
    (missing : t.kindAt (n :: d) = none) (valid : ∀ m ∈ n :: names, IsName m)
    (located : t'.locate true (known ++ n :: names) = some q) : q = names.reverse ++ n :: d := by
  -- what lies where something was missing is no link
  have noLink : ∀ p, n :: d <:+ p → t'.NoLink p := by
    intro p below text link
    have made := (extended.new p (kindAt_below_none below missing) (by rw [link]; simp)).2
    rw [link] at made
    cases made
  induction names using List.reverseRecOn generalizing q with
  | nil =>
      obtain ⟨e, before, -, same⟩ := locate_concat (valid n List.mem_cons_self) located
      obtain rfl := Option.some.inj ((extended.grows.locate leads).symm.trans before)
      exact same (Or.inl (noLink _ (List.suffix_refl _)))
  | append_singleton names m ih =>
      have onwards : known ++ n :: (names ++ [m]) = known ++ n :: names ++ [m] := by simp
      rw [onwards] at located
      have name : IsName m := valid m (by simp)
      obtain ⟨e, before, -, same⟩ := locate_concat name located
      obtain rfl := ih (fun x mem => valid x (by
        rw [← List.cons_append]
        exact List.mem_append_left _ mem)) before
      rw [List.reverse_append, List.reverse_singleton, List.singleton_append, List.cons_append]
      apply same
      refine Or.inl (noLink _ ?_)
      exact (List.suffix_append names.reverse (n :: d)).trans (List.suffix_cons m _)

namespace NewHome

/-- Nothing lies at the place of a new home directory or below it. -/
theorem free (new : NewHome t home place) (r : Place) : t.kindAt (r ++ place) = none := by
  obtain ⟨known, n, rest, d, -, rfl, -, -, missing, -⟩ := new
  apply kindAt_below_none _ missing
  exact (List.suffix_append rest.reverse _).trans (List.suffix_append r _)

theorem absent (new : NewHome t home place) : t.locate true home = none := by
  obtain ⟨known, n, rest, d, rfl, -, leads, -, missing, valid⟩ := new
  by_contra found
  obtain ⟨q, located⟩ := Option.ne_none_iff_exists'.mp found
  have split : known ++ n :: rest = known ++ [n] ++ rest := by simp
  rw [split] at located
  obtain ⟨e, before, -⟩ := locate_append located
  obtain ⟨d', leads', present, -⟩ := locate_concat (valid n List.mem_cons_self) before
  obtain rfl := Option.some.inj (leads.symm.trans leads')
  exact present missing

theorem located (new : NewHome t home place) (extended : Extended t place t') {q : Place}
    (leads : t'.locate true home = some q) : q = place := by
  obtain ⟨known, n, rest, d, rfl, rfl, before, -, missing, valid⟩ := new
  exact locate_made extended before missing valid leads

/-- A name of the home path is one of the path to a directory, or that of an entry to be made. -/
theorem name_cases {path rest : FilePath} {n : Name} {e : Place} (new : NewHome t home place)
    (extended : Extended t place t') (way : path ++ n :: rest = home)
    (leads : t'.locate true path = some e) :
    (∃ q, t'.locate true (path ++ [n]) = some q ∧ t'.kindAt q = some .dir) ∨
      (IsName n ∧ n :: e <:+ place ∧ t.kindAt (n :: e) = none) := by
  obtain ⟨known, m, more, d, rfl, rfl, before, dir, missing, valid⟩ := new
  have known' := extended.grows.locate before
  rcases name_of_path way with ⟨inner, split⟩ | ⟨made, rfl, split⟩
  · rw [split] at known'
    exact Or.inl (locate_beginning known' (extended.grows _ _ dir))
  · refine Or.inr ?_
    cases made with
    | nil =>
        obtain ⟨rfl, rfl⟩ := List.cons.inj split
        rw [List.append_nil, known'] at leads
        obtain rfl := Option.some.inj leads
        exact ⟨valid m List.mem_cons_self, List.suffix_append _ _, missing⟩
    | cons m' made =>
        rw [List.cons_append, List.cons.injEq] at split
        obtain ⟨rfl, rfl⟩ := split
        have earlier : ∀ x ∈ m :: made, IsName x := by
          intro x mem
          apply valid x
          rw [← List.cons_append]
          exact List.mem_append_left _ mem
        obtain rfl := locate_made extended before missing earlier leads
        refine ⟨valid n (by simp), ?_, ?_⟩
        · rw [List.reverse_append, List.reverse_cons, List.append_assoc, List.append_assoc]
          exact List.suffix_append _ _
        · apply kindAt_below_none _ missing
          exact (List.suffix_append made.reverse _).trans (List.suffix_cons n _)

theorem makes {t'' : Tree FileAttr Str} {path rest : FilePath} {n : Name} {d : Place}
    {attr : FileAttr} (new : NewHome t home place) (extended : Extended t place t')
    (way : path ++ n :: rest = home) (leads : t'.locate true path = some d)
    (free : t'.kindAt (n :: d) = none) (attached : t'.attach (n :: d) ⟨.dir, attr⟩ = some t'') :
    Extended t place t'' := by
  rcases new.name_cases extended way leads with ⟨q, located, -⟩ | ⟨-, onWay, -⟩
  · obtain ⟨m, e, split, name, -⟩ := attach_spec attached
    obtain ⟨rfl, rfl⟩ := List.cons.inj split
    obtain ⟨d', leads', present, -⟩ := locate_concat name located
    obtain rfl := Option.some.inj (leads.symm.trans leads')
    exact absurd free present
  · exact extended.attach free attached onWay

theorem passable (new : NewHome t home place) : Passable (Extended t place) home := by
  intro path n rest d t' way extended leads _
  rcases new.name_cases extended way leads with found | ⟨name, -, missing⟩
  · exact Or.inl found
  · have dirs : t'.kindAt (n :: d) ≠ none → t'.kindAt (n :: d) = some .dir :=
      fun present => (extended.new _ missing present).2
    by_cases present : t'.kindAt (n :: d) = none
    · refine Or.inr ⟨?_, name, present⟩
      by_contra found
      obtain ⟨q, located⟩ := Option.ne_none_iff_exists'.mp found
      obtain ⟨d', leads', here, -⟩ := locate_concat name located
      obtain rfl := Option.some.inj (leads.symm.trans leads')
      exact here present
    · refine Or.inl ⟨n :: d, ?_, dirs present⟩
      apply locate_entry present _ leads
      refine Or.inl fun text => ?_
      rw [dirs present]
      simp

end NewHome

/-! ## The creation -/

/-- The home directory does not lie below the skeleton, nor the skeleton below it. -/
theorem NewHome.apart (new : NewHome t home place) (dir : t.kindAt source = some .dir)
    (outside : ¬source <:+ place) (r : Place) : ¬place <:+ r ++ source := by
  intro below
  rcases List.suffix_or_suffix_of_suffix below (List.suffix_append r source) with deep | deep
  · have gone := kindAt_below_none deep (new.free [])
    rw [dir] at gone
    cases gone
  · exact outside deep

/-- The copy of the skeleton into a home directory that has just been made. -/
structure CopyInto (t : Tree FileAttr Str) (skel home : FilePath) (source place : Place)
    (uid gid creator : UInt32) (c : Copying) : Prop where
  extended : Extended t place c.start
  src : c.src = skel
  home : c.home = home
  source : c.source = source
  target : c.target = place
  uid : c.uid = uid
  gid : c.gid = gid
  creator : c.creator = creator

theorem NewHome.copyInto {p : Place} (new : NewHome t home place) (extended : Extended t place t')
    (skelLeads : t.locate true skel = some source) (skelDir : t.kindAt source = some .dir)
    (outside : ¬source <:+ place) (leads : t'.locate true home = some p)
    (isDir : t'.kindAt p = some .dir) (uid gid creator : UInt32) :
    ∃ c : Copying, CopyInto t skel home source place uid gid creator c ∧ c.start = t' := by
  obtain rfl := new.located extended leads
  have empty : ∀ r, r ≠ [] → t'.kindAt (r ++ p) = none := by
    intro r proper
    by_contra present
    have deep := (extended.new _ (new.free r) present).1.length_le
    rw [List.length_append] at deep
    have positive := List.length_pos_iff.mpr proper
    omega
  refine ⟨⟨t', skel, home, source, p, uid, gid, creator, extended.grows.locate skelLeads, leads,
    extended.grows _ _ skelDir, isDir, empty, new.apart skelDir outside⟩, ?_, rfl⟩
  exact ⟨extended, rfl, rfl, rfl, rfl, rfl, rfl, rfl⟩

/-- Before anything is copied there are no copies. -/
theorem Copying.keeps_start (c : Copying) : c.Keeps c.start := by
  have within : c.Within c.start := by
    constructor
    · exact fun _ _ => rfl
    · intro r k here proper
      rw [c.empty r proper] at here
      cases here
    · exact c.targetDir
  refine ⟨within, fun _ _ _ => rfl, ?_, ?_⟩
  · intro r text attr here
    have link := kindAt_of_lookup here
    by_cases root : r = []
    · rw [root, List.nil_append, c.targetDir] at link
      cases link
    · rw [c.empty r root] at link
      cases link
  · intro _ r attr original
    exact ⟨attr, original, rfl⟩

/-- The skeleton is copied into the home directory that has just been made. -/
theorem Copying.copyHome_spec {c : Copying} (umask : UInt32) (here : w.tree = c.start)
    (creator : w.euid = c.creator) :
    wp (do
        if !(← copyFileAttributes (some c.src) c.home) then
          return some ⟨.fileAttribute, "Unable to get/set dir attributes"⟩
        if !(← fileChown c.home c.uid c.gid) then
          return some ⟨.homeDirCreateFailure, "Home directory chown failure"⟩
        copyDirRecursively c.uid c.gid umask ((← get).tree.depth + 1) (some c.src) c.home)
      (fun error w' => (error = none → c.Keeps w'.tree ∧ ∀ u, c.Copied w'.tree u) ∧
        (w.faults = [] → c.NoLinks → error = none)) w := by
  have keeps : c.Keeps w.tree := by rw [here]; exact c.keeps_start
  have root : c.originalKind [] = some .dir := c.sourceDir
  obtain ⟨found, noLink⟩ := Copying.plain_dir root
  have home : w.tree.kindAt ([] ++ c.target) ≠ none := by
    rw [List.nil_append, keeps.dir]
    simp
  rw [wp_bind, ← c.srcPath_nil, ← c.destPath_nil]
  refine wp_mono (Copying.copyFileAttributes_goes keeps found) ?_
  intro ok w₁ spec
  obtain ⟨goes₁, plain⟩ := spec
  obtain ⟨hasMode, calm₁⟩ := plain noLink
  cases ok with
  | false =>
      simp only [Bool.not_false, if_true, wp_pure]
      refine ⟨by simp, ?_⟩
      intro quiet _
      have success := (calm₁ quiet home).1
      cases success
  | true =>
      simp only [Bool.not_true, Bool.false_eq_true, if_false, wp_bind]
      refine wp_mono (Copying.fileChown_goes goes₁.keeps found
        (fun text link => absurd link (noLink text)) fun _ => hasMode rfl) ?_
      intro owned w₂ spec
      obtain ⟨goes₂, done, calm₂⟩ := spec
      cases owned with
      | false =>
          simp only [Bool.not_false, if_true, wp_pure]
          refine ⟨by simp, ?_⟩
          intro quiet _
          have success := (calm₂ (calm₁ quiet home).2 noLink).1
          cases success
      | true =>
          simp only [Bool.not_true, Bool.false_eq_true, if_false, wp_bind, wp_get]
          -- the skeleton is no deeper than the tree
          have shallow : ∀ r, c.originalKind r ≠ none → r.length ≤ w₂.tree.depth := by
            intro r present
            rw [← goes₂.keeps.source_kind] at present
            have deep := length_le_depth present
            rw [List.length_append] at deep
            omega
          have copies := Copying.copyDirRecursively_goes umask shallow
            (w₂.tree.depth + 1) [] (by simp) root
          refine wp_mono (copies w₂ goes₂.keeps
            (goes₂.euid.trans (goes₁.euid.trans creator))) ?_
          intro error w₃ spec
          obtain ⟨goes₃, copied, calm₃⟩ := spec
          constructor
          · intro success
            refine ⟨goes₃.keeps, ?_⟩
            intro u
            by_cases top : u = []
            · subst top
              exact goes₃.progress.copied [] (fun below => below.2 rfl) (done rfl)
            · exact copied success u ⟨List.nil_suffix, top⟩
          · intro quiet noLinks
            have calmed := (calm₂ (calm₁ quiet home).2 noLink).2
            exact (calm₃ calmed noLinks goes₂.keeps.dir).1

theorem fileExists_absent {path : FilePath} (absent : w.tree.locate true path = none) :
    wp (fileExists path) (fun found w' => found = false ∧ After w w.tree w') w := by
  refine wp_mono (fileExists_spec path w) ?_
  intro found w' spec
  obtain ⟨read, leads, -⟩ := spec
  refine ⟨?_, read⟩
  cases found with
  | false => rfl
  | true =>
      obtain ⟨p, located⟩ := leads rfl
      rw [absent] at located
      cases located

/-- The creation ends.  If it succeeds everything of the skeleton has been copied into new
directories; it does if no call fails and the skeleton has no links. -/
theorem gumFileCreateHomeDir_spec (uid gid umask : UInt32)
    (skelLeads : w.tree.locate true skel = some source) (skelDir : w.tree.kindAt source = some .dir)
    (new : NewHome w.tree home place) (outside : ¬source <:+ place) :
    wp (gumFileCreateHomeDir (some skel) (some home) uid gid umask) (fun error w' =>
      (error = none → ∃ c, CopyInto w.tree skel home source place uid gid w.euid c ∧
        c.Keeps w'.tree ∧ ∀ u, c.Copied w'.tree u) ∧
      (w.faults = [] → (∀ r text, w.tree.kindAt (r ++ source) ≠ some (.link text)) →
        error = none)) w := by
  have absent := new.absent
  rw [gumFileCreateHomeDir, wp_bind]
  refine wp_mono (fileExists_absent absent) ?_
  intro exists₁ w₁ spec
  obtain ⟨rfl, read₁⟩ := spec
  simp only [Bool.false_eq_true, if_false]
  rw [wp_bind]
  refine wp_mono (fileExists_absent (read₁.tree ▸ absent)) ?_
  intro exists₂ w₂ spec
  obtain ⟨rfl, read₂⟩ := spec
  have read := read₁.read read₂
  have start : Extended w.tree place w₂.tree := by rw [read.tree]; exact Extended.refl _ _
  simp only [Bool.not_false, if_true]
  rw [wp_bind, gMkdirWithParents]
  refine wp_mono (mkdirFrom_spec (I := Extended w.tree place) ?_ home [] rfl w₂ start) ?_
  · intro path n rest d t t' attr way extended leads free attached
    exact new.makes extended way leads free attached
  intro made w₃ spec
  obtain ⟨extended, euid, calm₃⟩ := spec
  rw [wp_bind]
  refine wp_mono (fileIsDir_spec home w₃) ?_
  intro isDir w₄ spec
  obtain ⟨read₄, dir₄, calm₄⟩ := spec
  have homeMade : w.faults = [] → isDir = true ∧ w₄.faults = [] := by
    intro quiet
    obtain ⟨-, calmed, e, leads, dir⟩ := calm₃ (read.calm quiet) new.passable [] rfl
      w₂.tree.kindAt_root
    exact ⟨calm₄ calmed e leads dir, read₄.calm calmed⟩
  cases isDir with
  | false =>
      simp only [Bool.not_false, if_true, wp_pure]
      refine ⟨by simp, ?_⟩
      intro quiet _
      have success := (homeMade quiet).1
      cases success
  | true =>
      obtain ⟨p, leads, dir⟩ := dir₄ rfl
      obtain ⟨c, into, startsAt⟩ := new.copyInto extended skelLeads skelDir outside leads dir uid gid
        w.euid
      have creator : w₄.euid = c.creator := by
        rw [into.creator, read₄.euid, euid, read.euid]
      have spec := Copying.copyHome_spec umask (read₄.tree.trans startsAt.symm) creator
      rw [into.src, into.home, into.uid, into.gid] at spec
      simp only [Bool.not_true, Bool.false_eq_true, if_false]
      refine wp_mono spec ?_
      intro error w₅ outcome
      obtain ⟨success, calm₅⟩ := outcome
      refine ⟨fun done => ⟨c, into, success done⟩, ?_⟩
      intro quiet noLinks
      apply calm₅ (homeMade quiet).2
      intro r text
      rw [Copying.originalKind, kindAt, into.source, into.extended.lookup_source outside]
      exact noLinks r text

/-! ## What the copy is -/

/-- The tree at the one place is a copy of that at the other and belongs to the user; of the rest
nothing has changed, but that the directories above the copy may be new. -/
structure SkeletonCopied (t t' : Tree FileAttr Str) (source place : Place) (uid gid : UInt32) :
    Prop where
  sameEntries : ∀ r, t'.kindAt (r ++ place) = t.kindAt (r ++ source)
  owned : ∀ r node, t'.lookup (r ++ place) = some node → node.attr.uid = uid ∧ node.attr.gid = gid
  restKept : ∀ p node, ¬place <:+ p → t.lookup p = some node → t'.lookup p = some node
  onlyParents : ∀ p, ¬place <:+ p → t.lookup p = none → t'.lookup p ≠ none →
    p <:+ place ∧ t'.kindAt p = some .dir

/-- There is no symbolic link below a place. -/
def LinkFree (t : Tree FileAttr Str) (place : Place) : Prop :=
  ∀ r text, t.kindAt (r ++ place) ≠ some (.link text)

namespace CopyInto

variable {uid gid creator : UInt32} {c : Copying}

theorem original (into : CopyInto t skel home source place uid gid creator c)
    (outside : ¬source <:+ place) (r : Place) : c.original r = t.lookup (r ++ source) := by
  rw [Copying.original, into.source, into.extended.lookup_source outside]

theorem originalKind (into : CopyInto t skel home source place uid gid creator c)
    (outside : ¬source <:+ place) (r : Place) : c.originalKind r = t.kindAt (r ++ source) := by
  rw [kindAt, ← into.original outside]
  rfl

/-- What a complete copy keeps and what it has made of the skeleton. -/
theorem sameEntries (into : CopyInto t skel home source place uid gid creator c)
    (outside : ¬source <:+ place) (keeps : c.Keeps t') (copied : ∀ u, c.Copied t' u) (r : Place) :
    t'.kindAt (r ++ place) = t.kindAt (r ++ source) := by
  rw [← into.originalKind outside, ← into.target]
  cases original : c.original r with
  | some node =>
      obtain ⟨attr, copy, -⟩ := copied r node original
      rw [kindAt_of_lookup copy, Copying.original_eq original]
  | none =>
      have missing : c.originalKind r = none := kindAt_eq_none_iff.mpr original
      rw [missing]
      by_contra present
      obtain ⟨k, here⟩ := Option.ne_none_iff_exists'.mp present
      have proper : r ≠ [] := by
        intro root
        rw [root] at missing
        have dir : c.originalKind [] = some .dir := c.sourceDir
        rw [dir] at missing
        cases missing
      rw [keeps.inside r k here proper] at missing
      cases missing

theorem skeletonCopied (into : CopyInto t skel home source place uid gid creator c)
    (outside : ¬source <:+ place) (keeps : c.Keeps t') (copied : ∀ u, c.Copied t' u)
    (linkFree : LinkFree t source) (user : uid ≠ noId) (group : gid ≠ noId) :
    SkeletonCopied t t' source place uid gid := by
  have same := into.sameEntries outside keeps copied
  have noLinks : c.NoLinks := by
    intro r text
    rw [into.originalKind outside]
    exact linkFree r text
  -- without links nothing is reached through one
  have unreached : ∀ p, ¬c.Reached p := by
    intro p reached
    obtain ⟨r, text, -, link, -⟩ := reached
    exact noLinks r text link
  have kept : ∀ p, ¬place <:+ p → t'.lookup p = c.start.lookup p := by
    intro p out
    rw [← into.target] at out
    exact keeps.attrs p out (unreached p)
  refine ⟨same, ?_, ?_, ?_⟩
  · intro r node here
    obtain ⟨k, attr₀⟩ := node
    have kind := kindAt_of_lookup here
    rw [same r] at kind
    obtain ⟨attr, original⟩ := kindAt_eq_some_iff.mp kind
    rw [← into.original outside] at original
    obtain ⟨attr', copy, owner, -⟩ := copied r _ original
    rw [into.target, here] at copy
    cases copy
    have plain : ∀ text, k ≠ .link text := by
      intro text link
      rw [link] at kind
      exact linkFree r text kind
    obtain ⟨own, ownGroup⟩ := owner plain (unreached _)
    rw [into.uid] at own
    rw [into.gid] at ownGroup
    exact ⟨own user, ownGroup group⟩
  · intro p node out here
    rw [kept p out]
    exact into.extended.kept p node here
  · intro p out missing present
    rw [kept p out] at present
    rw [kindAt, kept p out]
    exact into.extended.new p (kindAt_eq_none_iff.mpr missing) (mt kindAt_eq_none_iff.mp present)

/-- The copies of links stay with the creator. -/
theorem linkFree (into : CopyInto t skel home source place uid gid creator c) (keeps : c.Keeps t')
    (copied : SkeletonCopied t t' source place uid gid) (other : uid ≠ creator) :
    LinkFree t source := by
  intro r text link
  rw [← copied.sameEntries] at link
  obtain ⟨attr, here⟩ := kindAt_eq_some_iff.mp link
  have own := (copied.owned r _ here).1
  rw [← into.target] at here
  have made := keeps.links r text attr here
  rw [into.creator] at made
  exact other (own.symm.trans made)

end CopyInto

/-- Creating a home directory copies the skeleton and touches nothing else if the skeleton has no
symbolic links, and for a user other than the process itself only then. -/
theorem createHomeDir_copies_iff {uid gid umask : UInt32} (calm : w.faults = [])
    (skelLeads : w.tree.locate true skel = some source) (skelDir : w.tree.kindAt source = some .dir)
    (new : NewHome w.tree home place) (outside : ¬source <:+ place) (user : uid ≠ noId)
    (group : gid ≠ noId) :
    ∃ error w', (gumFileCreateHomeDir (some skel) (some home) uid gid umask).run w =
        some (error, w') ∧
      (LinkFree w.tree source → error = none ∧ SkeletonCopied w.tree w'.tree source place uid gid) ∧
      (uid ≠ w.euid → (error = none ∧ SkeletonCopied w.tree w'.tree source place uid gid ↔
        LinkFree w.tree source)) := by
  obtain ⟨error, w', run, success, quiet⟩ :=
    gumFileCreateHomeDir_spec uid gid umask skelLeads skelDir new outside
  have enough : LinkFree w.tree source →
      error = none ∧ SkeletonCopied w.tree w'.tree source place uid gid := by
    intro linkFree
    have done := quiet calm linkFree
    obtain ⟨c, into, keeps, copied⟩ := success done
    exact ⟨done, into.skeletonCopied outside keeps copied linkFree user group⟩
  refine ⟨error, w', run, enough, ?_⟩
  intro other
  refine ⟨?_, enough⟩
  intro both
  obtain ⟨c, into, keeps, -⟩ := success both.1
  exact into.linkFree keeps both.2 other

/-! ## Modes -/

/-- No directory at or below a place has a permission bit that is set in the umask. -/
def Masked (umask : UInt32) (t : Tree FileAttr Str) (place : Place) : Prop :=
  ∀ r attr, t.lookup (r ++ place) = some ⟨.dir, attr⟩ → attr.mode &&& gumPerm &&& umask = 0

/-- The tree while the copy is made: directories above the home directory may be new, and what lies
below it are copies. -/
structure PartialCopy (t : Tree FileAttr Str) (source place : Place) (t' : Tree FileAttr Str) :
    Prop where
  outside : ∀ p, ¬place <:+ p → t'.kindAt p = t.kindAt p ∨
    (p <:+ place ∧ t.kindAt p = none ∧ t'.kindAt p = some .dir)
  inside : ∀ r k, r ≠ [] → t'.kindAt (r ++ place) = some k → t.kindAt (r ++ source) = some k
  dir : t'.kindAt place = some .dir

/-- If the copy of a link of the skeleton leads to a directory of the skeleton or of the home
directory, the link leads to the same directory or to that it is the copy of. -/
def LinksAgree (t : Tree FileAttr Str) (skel home : FilePath) (source place : Place) : Prop :=
  ∀ r text t' p q, t.kindAt (r ++ source) = some (.link text) → PartialCopy t source place t' →
    t'.locate true (skel ++ r.reverse) = some p → t'.locate true (home ++ r.reverse) = some q →
    t'.kindAt q = some .dir → (source <:+ q ∨ place <:+ q) →
    p = q ∨ ∃ u, p = u ++ source ∧ q = u ++ place

namespace CopyInto

variable {uid gid creator : UInt32} {c : Copying}

theorem partialCopy (into : CopyInto t skel home source place uid gid creator c)
    (outside : ¬source <:+ place) (within : c.Within t') : PartialCopy t source place t' := by
  constructor
  · intro p out
    rw [← into.target] at out
    rw [within.outside p out]
    by_cases missing : t.kindAt p = none
    · by_cases made : c.start.kindAt p = none
      · exact Or.inl (made.trans missing.symm)
      · obtain ⟨onWay, dir⟩ := into.extended.new p missing made
        exact Or.inr ⟨onWay, missing, dir⟩
    · obtain ⟨k, here⟩ := Option.ne_none_iff_exists'.mp missing
      rw [here]
      exact Or.inl (into.extended.grows p k here)
  · intro r k proper here
    rw [← into.originalKind outside]
    rw [← into.target] at here
    exact within.inside r k here proper
  · rw [← into.target]
    exact within.dir

theorem linksAgree (into : CopyInto t skel home source place uid gid creator c)
    (outside : ¬source <:+ place) (agree : LinksAgree t skel home source place) : c.LinksAgree := by
  intro r text t' p q link within leads leads' isDir below
  rw [into.originalKind outside] at link
  rw [Copying.srcPath, into.src] at leads
  rw [Copying.destPath, into.home] at leads'
  rw [into.source, into.target] at below ⊢
  exact agree r text t' p q link (into.partialCopy outside within) leads leads' isDir below

/-- The directories of a complete copy have the modes of the skeleton's. -/
theorem masked_iff {umask : UInt32} (into : CopyInto t skel home source place uid gid creator c)
    (outside : ¬source <:+ place) (agree : LinksAgree t skel home source place)
    (keeps : c.Keeps t') (copied : ∀ u, c.Copied t' u) :
    Masked umask t' place ↔ Masked umask t source := by
  have modes : ∀ r attr, t.lookup (r ++ source) = some ⟨.dir, attr⟩ →
      ∃ attr', t'.lookup (r ++ place) = some ⟨.dir, attr'⟩ ∧ SameMode attr' attr := by
    intro r attr here
    rw [← into.original outside] at here
    obtain ⟨attr', copy, -, mode⟩ := copied r _ here
    rw [into.target] at copy
    exact ⟨attr', copy, mode (into.linksAgree outside agree) rfl⟩
  constructor
  · intro masked r attr here
    obtain ⟨attr', copy, same⟩ := modes r attr here
    rw [← same]
    exact masked r attr' copy
  · intro masked r attr here
    have kind := kindAt_of_lookup here
    rw [into.sameEntries outside keeps copied] at kind
    obtain ⟨attr₀, original⟩ := kindAt_eq_some_iff.mp kind
    obtain ⟨attr', copy, same⟩ := modes r attr₀ original
    rw [here] at copy
    cases copy
    rw [same]
    exact masked r attr₀ original

end CopyInto

/-- A home directory that has been created has no permission bit of the umask exactly if the skeleton
has none. -/
theorem createHomeDir_masked_iff {uid gid umask : UInt32}
    (skelLeads : w.tree.locate true skel = some source) (skelDir : w.tree.kindAt source = some .dir)
    (new : NewHome w.tree home place) (outside : ¬source <:+ place)
    (agree : LinksAgree w.tree skel home source place) :
    ∃ error w', (gumFileCreateHomeDir (some skel) (some home) uid gid umask).run w =
        some (error, w') ∧
      (error = none → (Masked umask w'.tree place ↔ Masked umask w.tree source)) := by
  obtain ⟨error, w', run, success, -⟩ :=
    gumFileCreateHomeDir_spec uid gid umask skelLeads skelDir new outside
  refine ⟨error, w', run, ?_⟩
  intro done
  obtain ⟨c, into, keeps, copied⟩ := success done
  exact into.masked_iff outside agree keeps copied

/-- Links agree where there are none. -/
theorem LinkFree.linksAgree (linkFree : LinkFree t source) : LinksAgree t skel home source place :=
  fun r text _ _ _ link => absurd link (linkFree r text)

theorem LinkFree.of_nodes (plain : t.nodes.entries.all (fun entry => !entry.2.kind.isLink) = true)
    (place : Place) : LinkFree t place := by
  intro r text link
  obtain ⟨attr, here⟩ := kindAt_eq_some_iff.mp link
  have entry := List.all_eq_true.mp plain _ (AList.mem_lookup_iff.mp here)
  cases entry

namespace Sample

def skelDir : FilePath := [str "etc", str "skel"]

def bobDir : FilePath := [str "home", str "bob"]

/-- A skeleton of directories that everybody may read. -/
def skelTree : Tree FileAttr Str :=
  (Tree.ofRoot rootAttr).attachAll
    [([str "home"], ⟨.dir, rootAttr⟩), ([str "etc"], ⟨.dir, rootAttr⟩),
      ([str "passwd", str "etc"], ⟨.file (str "root"), rootAttr⟩),
      ([str "skel", str "etc"], ⟨.dir, rootAttr⟩),
      ([str "rc", str "skel", str "etc"], ⟨.file (str "r"), rootAttr⟩),
      ([str "bin", str "skel", str "etc"], ⟨.dir, rootAttr⟩)]

def skelWorld : FileWorld := ⟨skelTree, [], 0, 0, 0x12⟩

/-- The same with a link to a system file in the skeleton. -/
def linkedWorld : FileWorld :=
  { skelWorld with
    tree := skelTree.attachAll
      [([str "users", str "skel", str "etc"], ⟨.link (str "/etc/passwd"), rootAttr⟩)] }

theorem newHome_bob : NewHome skelTree bobDir [str "bob", str "home"] :=
  ⟨[str "home"], str "bob", [], [str "home"], rfl, rfl, by decide +kernel, by decide +kernel,
    by decide +kernel, by decide +kernel⟩

theorem createHomeDir_copies_iff_bob :
    ∃ error w', (gumFileCreateHomeDir (some skelDir) (some bobDir) 1000 1000 0x3f).run skelWorld =
        some (error, w') ∧
      (LinkFree skelTree [str "skel", str "etc"] → error = none ∧
        SkeletonCopied skelTree w'.tree [str "skel", str "etc"] [str "bob", str "home"] 1000 1000) ∧
      ((1000 : UInt32) ≠ 0 → (error = none ∧
        SkeletonCopied skelTree w'.tree [str "skel", str "etc"] [str "bob", str "home"] 1000 1000 ↔
          LinkFree skelTree [str "skel", str "etc"])) :=
  createHomeDir_copies_iff (w := skelWorld) rfl (by decide +kernel) (by decide +kernel) newHome_bob
    (by decide +kernel) (by decide) (by decide)

/-- The copy of the link hands the system file to the new user. -/
theorem createHomeDir_hands_over :
    ∃ w', (gumFileCreateHomeDir (some skelDir) (some bobDir) 1000 1000 0x12).run linkedWorld =
        some (none, w') ∧ w'.tree.lookup [str "passwd", str "etc"] =
          some ⟨.file (str "root"), ⟨0x1ed, 1000, 1000⟩⟩ := by
  have result : ((gumFileCreateHomeDir (some skelDir) (some bobDir) 1000 1000 0x12).run
      linkedWorld).map (fun o => (o.1, o.2.tree.lookup [str "passwd", str "etc"])) =
        some (none, some ⟨.file (str "root"), ⟨0x1ed, 1000, 1000⟩⟩) := by
    decide +kernel
  obtain ⟨⟨error, w'⟩, run, same⟩ := Option.map_eq_some_iff.mp result
  obtain ⟨rfl, passwd⟩ := Prod.mk.inj same
  exact ⟨w', run, passwd⟩

theorem createHomeDir_not_copied :
    ∃ w', (gumFileCreateHomeDir (some skelDir) (some bobDir) 1000 1000 0x12).run linkedWorld =
        some (none, w') ∧
      ¬SkeletonCopied linkedWorld.tree w'.tree [str "skel", str "etc"] [str "bob", str "home"]
        1000 1000 := by
  obtain ⟨w', run, passwd⟩ := createHomeDir_hands_over
  refine ⟨w', run, ?_⟩
  intro copied
  have before : linkedWorld.tree.lookup [str "passwd", str "etc"] =
      some ⟨.file (str "root"), rootAttr⟩ := by
    decide +kernel
  have same := copied.restKept _ _ (by decide +kernel) before
  rw [passwd] at same
  cases same

theorem createHomeDir_masked_iff_bob :
    ∃ error w', (gumFileCreateHomeDir (some skelDir) (some bobDir) 1000 1000 0x3f).run skelWorld =
        some (error, w') ∧
      (error = none → (Masked 0x3f w'.tree [str "bob", str "home"] ↔
        Masked 0x3f skelTree [str "skel", str "etc"])) :=
  createHomeDir_masked_iff (w := skelWorld) (by decide +kernel) (by decide +kernel) newHome_bob
    (by decide +kernel) (LinkFree.of_nodes (by decide +kernel) _).linksAgree

/-- A private umask does not keep the home directory private. -/
theorem createHomeDir_not_masked :
    ∃ w', (gumFileCreateHomeDir (some skelDir) (some bobDir) 1000 1000 0x3f).run skelWorld =
        some (none, w') ∧ ¬Masked 0x3f w'.tree [str "bob", str "home"] := by
  have result : ((gumFileCreateHomeDir (some skelDir) (some bobDir) 1000 1000 0x3f).run
      skelWorld).map (fun o => (o.1, o.2.tree.lookup [str "bob", str "home"])) =
        some (none, some ⟨.dir, ⟨0x1ed, 1000, 1000⟩⟩) := by
    decide +kernel
  obtain ⟨⟨error, w'⟩, run, same⟩ := Option.map_eq_some_iff.mp result
  obtain ⟨rfl, home⟩ := Prod.mk.inj same
  refine ⟨w', run, ?_⟩
  intro masked
  have clear : (0x1ed : UInt32) &&& gumPerm &&& 0x3f = 0 := masked [] _ home
  exact absurd clear (by decide)

end Sample

end Gumd
