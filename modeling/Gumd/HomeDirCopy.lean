import Gumd.HomeDir

/-!
# Copying a directory tree

What the recursive copy of the skeleton keeps while it runs: nothing outside the home directory
changes but the attributes of what the copies of links lead to, and everything inside is the copy of
an entry of the skeleton.
-/

namespace Gumd

open FileTree FileTree.Tree TotalWp

/-- The permission bits are the same. -/
def SameMode (a b : FileAttr) : Prop := a.mode &&& gumPerm = b.mode &&& gumPerm

/-- The copy of a tree for a user into an empty directory outside it. -/
structure Copying where
  start : Tree FileAttr Str
  src : FilePath
  home : FilePath
  source : Place
  target : Place
  uid : UInt32
  gid : UInt32
  creator : UInt32
  srcLeads : start.locate true src = some source
  homeLeads : start.locate true home = some target
  sourceDir : start.kindAt source = some .dir
  targetDir : start.kindAt target = some .dir
  empty : ∀ r, r ≠ [] → start.kindAt (r ++ target) = none
  apart : ∀ r, ¬target <:+ r ++ source

namespace Copying

variable (c : Copying)

def srcPath (r : Place) : FilePath := c.src ++ r.reverse

def destPath (r : Place) : FilePath := c.home ++ r.reverse

/-- The skeleton's entry at a relative place. -/
def original (r : Place) : Option FileNode := c.start.lookup (r ++ c.source)

def originalKind (r : Place) : Option (Kind Str) := c.start.kindAt (r ++ c.source)

/-- The tree consists of the old entries and of copies of the skeleton's. -/
structure Within (t : Tree FileAttr Str) : Prop where
  outside : ∀ p, ¬c.target <:+ p → t.kindAt p = c.start.kindAt p
  inside : ∀ r k, t.kindAt (r ++ c.target) = some k → r ≠ [] → c.originalKind r = some k
  dir : t.kindAt c.target = some .dir

/-- The places the copies of links may lead to. -/
def Reached (place : Place) : Prop :=
  ∃ r text t, c.originalKind r = some (.link text) ∧ c.Within t ∧
    t.locate true (c.destPath r) = some place

/-- Where the copy of a link leads to a directory of one of the trees, the link leads to the same
directory or to that it is the copy of. -/
def LinksAgree : Prop :=
  ∀ r text t p q, c.originalKind r = some (.link text) → c.Within t →
    t.locate true (c.srcPath r) = some p → t.locate true (c.destPath r) = some q →
    t.kindAt q = some .dir → (c.source <:+ q ∨ c.target <:+ q) →
    p = q ∨ ∃ u, p = u ++ c.source ∧ q = u ++ c.target

/-- What the copy keeps: outside the home directory only what links lead to changes, a copy of a
link stays with its creator, and the skeleton's directories keep their modes if the links agree. -/
structure Keeps (t : Tree FileAttr Str) : Prop extends c.Within t where
  attrs : ∀ p, ¬c.target <:+ p → ¬c.Reached p → t.lookup p = c.start.lookup p
  links : ∀ r text attr, t.lookup (r ++ c.target) = some ⟨.link text, attr⟩ → attr.uid = c.creator
  modes : c.LinksAgree → ∀ r attr, c.original r = some ⟨.dir, attr⟩ →
    ∃ attr', t.lookup (r ++ c.source) = some ⟨.dir, attr'⟩ ∧ SameMode attr' attr

variable {c} {t t' : Tree FileAttr Str} {r s : Place} {n : Name}

/-! ## Paths -/

theorem srcPath_nil : c.srcPath [] = c.src := List.append_nil c.src

theorem destPath_nil : c.destPath [] = c.home := List.append_nil c.home

theorem srcPath_cons : c.srcPath (n :: r) = c.srcPath r ++ [n] := by
  unfold srcPath
  rw [List.reverse_cons, List.append_assoc]

theorem destPath_cons : c.destPath (n :: r) = c.destPath r ++ [n] := by
  unfold destPath
  rw [List.reverse_cons, List.append_assoc]

theorem Within.grows (within : c.Within t) : Grows c.start t := by
  intro p k found
  by_cases below : c.target <:+ p
  · obtain ⟨r, rfl⟩ := below
    by_cases here : r = []
    · subst here
      rw [List.nil_append] at found ⊢
      rw [c.targetDir] at found
      rw [within.dir, found]
    · rw [c.empty r here] at found
      cases found
  · rw [within.outside p below, found]

theorem originalKind_tail (found : c.originalKind (n :: r) ≠ none) : c.originalKind r = some .dir :=
  kindAt_tail (p := r ++ c.source) found

theorem isName_of_original (found : c.originalKind (n :: r) ≠ none) : IsName n :=
  isName (p := r ++ c.source) found

theorem Within.source_kind (within : c.Within t) (r : Place) :
    t.kindAt (r ++ c.source) = c.originalKind r := within.outside _ (c.apart r)

/-- The skeleton's entries are found under their paths. -/
theorem Within.locate_source_dir (within : c.Within t) (dir : c.originalKind r = some .dir) :
    t.locate true (c.srcPath r) = some (r ++ c.source) := by
  induction r with
  | nil =>
      rw [srcPath_nil]
      exact within.grows.locate c.srcLeads
  | cons n r ih =>
      have found : c.originalKind (n :: r) ≠ none := by
        rw [dir]
        simp
      have here : t.kindAt (n :: (r ++ c.source)) = some .dir := by
        rw [← dir]
        exact within.source_kind (n :: r)
      rw [srcPath_cons]
      apply locate_entry (d := r ++ c.source)
      · rw [here]
        simp
      · refine Or.inl fun text => ?_
        rw [here]
        simp
      · exact ih (originalKind_tail found)

theorem Within.locate_source (follow : Bool) (within : c.Within t)
    (found : c.originalKind (n :: r) ≠ none)
    (plain : (∀ text, c.originalKind (n :: r) ≠ some (.link text)) ∨ follow = false) :
    t.locate follow (c.srcPath (n :: r)) = some (n :: r ++ c.source) := by
  have here : t.kindAt (n :: (r ++ c.source)) = c.originalKind (n :: r) :=
    within.source_kind (n :: r)
  rw [srcPath_cons]
  apply locate_entry (d := r ++ c.source)
  · rw [here]
    exact found
  · rcases plain with noLink | stays
    · refine Or.inl fun text => ?_
      rw [here]
      exact noLink text
    · exact Or.inr stays
  · exact within.locate_source_dir (originalKind_tail found)

/-- A path into the copy of a directory leads there. -/
theorem Within.locate_copy_dir (within : c.Within t) (dir : c.originalKind r = some .dir) {d : Place}
    (leads : t.locate true (c.destPath r) = some d) : d = r ++ c.target := by
  induction r generalizing d with
  | nil =>
      rw [destPath_nil] at leads
      exact Option.some.inj (leads.symm.trans (within.grows.locate c.homeLeads))
  | cons n r ih =>
      have found : c.originalKind (n :: r) ≠ none := by
        rw [dir]
        simp
      rw [destPath_cons] at leads
      obtain ⟨e, leads', exists', same⟩ := locate_concat (isName_of_original found) leads
      obtain rfl := ih (originalKind_tail found) leads'
      apply same
      refine Or.inl fun text link => ?_
      have copied := within.inside (n :: r) _ link (by simp)
      rw [dir] at copied
      cases copied

theorem Within.locate_plain_source (within : c.Within t) (found : c.originalKind s ≠ none)
    (noLink : ∀ text, c.originalKind s ≠ some (.link text)) :
    t.locate true (c.srcPath s) = some (s ++ c.source) := by
  cases s with
  | nil => exact within.locate_source_dir c.sourceDir
  | cons n r => exact within.locate_source true found (Or.inl noLink)

/-- A path to a copy leads to the copy, if it is that of no link. -/
theorem Within.locate_copy (within : c.Within t) (found : c.originalKind s ≠ none)
    (noLink : ∀ text, c.originalKind s ≠ some (.link text)) {q : Place}
    (leads : t.locate true (c.destPath s) = some q) :
    q = s ++ c.target ∧ t.kindAt q = c.originalKind s := by
  cases s with
  | nil =>
      have root : c.originalKind [] = some .dir := c.sourceDir
      obtain rfl := within.locate_copy_dir root leads
      exact ⟨rfl, within.dir.trans root.symm⟩
  | cons n r =>
      rw [destPath_cons] at leads
      obtain ⟨d, leads', exists', same⟩ := locate_concat (isName_of_original found) leads
      obtain rfl := within.locate_copy_dir (originalKind_tail found) leads'
      obtain ⟨k, here⟩ := Option.ne_none_iff_exists'.mp exists'
      have copied := within.inside (n :: r) k here (by simp)
      have place : q = n :: (r ++ c.target) := by
        apply same
        refine Or.inl fun text link => ?_
        exact noLink text (within.inside (n :: r) _ link (by simp))
      refine ⟨place, ?_⟩
      rw [place, here, copied]

/-- The copy of a directory is found under its path. -/
theorem Within.locate_copied_dir (within : c.Within t) (dir : t.kindAt (r ++ c.target) = some .dir) :
    t.locate true (c.destPath r) = some (r ++ c.target) := by
  induction r with
  | nil =>
      rw [destPath_nil]
      exact within.grows.locate c.homeLeads
  | cons m r ih =>
      have copied : t.kindAt (m :: (r ++ c.target)) = some .dir := dir
      have found : t.kindAt (m :: (r ++ c.target)) ≠ none := by
        rw [copied]
        simp
      rw [destPath_cons]
      apply locate_entry (d := r ++ c.target) found
      · refine Or.inl fun text => ?_
        rw [copied]
        simp
      · exact ih (kindAt_tail found)

/-- The copy of an entry is found under its path. -/
theorem Within.locate_copied (within : c.Within t) (found : t.kindAt (s ++ c.target) ≠ none)
    (noLink : ∀ text, c.originalKind s ≠ some (.link text)) :
    t.locate true (c.destPath s) = some (s ++ c.target) := by
  cases s with
  | nil => exact within.locate_copied_dir within.dir
  | cons n r =>
      rw [destPath_cons]
      apply locate_entry (d := r ++ c.target) found
      · refine Or.inl fun text link => ?_
        exact noLink text (within.inside (n :: r) _ link (by simp))
      · exact within.locate_copied_dir (kindAt_tail (n := n) found)

/-! ## Progress -/

variable (c) in
/-- The copy of an entry is made; if it is that of no link it belongs to the user, and that of a
directory has its mode, but for what the copies of links may have changed. -/
def Copied (t : Tree FileAttr Str) (r : Place) : Prop :=
  ∀ node, c.original r = some node → ∃ attr, t.lookup (r ++ c.target) = some ⟨node.kind, attr⟩ ∧
    ((∀ text, node.kind ≠ .link text) → ¬c.Reached (r ++ c.target) →
      (c.uid ≠ noId → attr.uid = c.uid) ∧ (c.gid ≠ noId → attr.gid = c.gid)) ∧
    (c.LinksAgree → node.kind = .dir → SameMode attr node.attr)

variable (c) in
/-- What a part of the copy does to the files; `touched` are the entries it works on. -/
structure Progress (touched : Place → Prop) (t t' : Tree FileAttr Str) : Prop where
  keeps : c.Keeps t'
  grows : Grows t t'
  copied : ∀ u, ¬touched u → c.Copied t u → c.Copied t' u

variable (c) in
/-- The change does not give a directory of one of the trees a mode that is not its own or that of
the directory it is the copy of. -/
def Fits (t : Tree FileAttr Str) (q : Place) (change : FileNode → FileAttr) : Prop :=
  c.LinksAgree → ∀ attr, t.lookup q = some ⟨.dir, attr⟩ → (c.source <:+ q ∨ c.target <:+ q) →
    SameMode (change ⟨.dir, attr⟩) attr ∨
      ∃ u attr', q = u ++ c.target ∧ c.original u = some ⟨.dir, attr'⟩ ∧
        SameMode (change ⟨.dir, attr⟩) attr'

variable {touched touched' : Place → Prop} {t'' : Tree FileAttr Str}

namespace Progress

theorem refl (keeps : c.Keeps t) (touched : Place → Prop) : c.Progress touched t t :=
  ⟨keeps, Grows.refl t, fun _ _ done => done⟩

theorem trans (first : c.Progress touched t t') (second : c.Progress touched t' t'') :
    c.Progress touched t t'' :=
  ⟨second.keeps, first.grows.trans second.grows,
    fun u free done => second.copied u free (first.copied u free done)⟩

theorem mono (weaken : ∀ u, touched u → touched' u) (progress : c.Progress touched t t') :
    c.Progress touched' t t' :=
  ⟨progress.keeps, progress.grows, fun u free => progress.copied u fun here => free (weaken u here)⟩

/-- Attributes may change at the copy the work is on, and where links lead to. -/
theorem setAttr {q : Place} {change : FileNode → FileAttr} (keeps : c.Keeps t)
    (noLink : t.NoLink q) (place : (c.Reached q ∧ c.Fits t q change) ∨ q = s ++ c.target) :
    c.Progress (· = s) t (t.setAttr q change) := by
  have kinds : ∀ p, (t.setAttr q change).kindAt p = t.kindAt p := fun p => kindAt_setAttr t q p change
  constructor
  · refine ⟨⟨?_, ?_, ?_⟩, ?_, ?_, ?_⟩
    · intro p out
      rw [kinds]
      exact keeps.outside p out
    · intro r k here
      rw [kinds] at here
      exact keeps.inside r k here
    · rw [kinds]
      exact keeps.dir
    · intro p out free
      have other : p ≠ q := by
        intro same
        rcases place with ⟨reached, -⟩ | inside
        · exact free (same ▸ reached)
        · exact out (same ▸ inside ▸ List.suffix_append s c.target)
      rw [lookup_setAttr, if_neg other]
      exact keeps.attrs p out free
    · intro r text attr here
      have link := kindAt_of_lookup here
      rw [kinds] at link
      have other : r ++ c.target ≠ q := by
        intro same
        exact noLink text (same ▸ link)
      rw [lookup_setAttr, if_neg other] at here
      exact keeps.links r text attr here
    · intro agree r attr original
      obtain ⟨attr', here, same⟩ := keeps.modes agree r attr original
      by_cases changed : r ++ c.source = q
      · refine ⟨_, by rw [lookup_setAttr, if_pos changed, ← changed, here]; rfl, ?_⟩
        rcases place with ⟨-, fits⟩ | inside
        · have below : c.source <:+ q := changed ▸ List.suffix_append r c.source
          rcases fits agree attr' (changed ▸ here) (Or.inl below) with kept | ⟨u, -, copy, -⟩
          · exact kept.trans same
          · rw [← changed] at copy
            exact absurd (copy ▸ List.suffix_append u c.target) (c.apart r)
        · rw [← changed] at inside
          exact absurd (inside ▸ List.suffix_append s c.target) (c.apart r)
      · refine ⟨attr', ?_, same⟩
        rw [lookup_setAttr, if_neg changed]
        exact here
  · intro p k here
    rw [kinds]
    exact here
  · intro u free done node original
    obtain ⟨attr, copy, owned, mode⟩ := done node original
    by_cases here : u ++ c.target = q
    · refine ⟨_, by rw [lookup_setAttr, if_pos here, ← here, copy]; rfl, ?_⟩
      rcases place with ⟨reached, fits⟩ | inside
      · refine ⟨fun _ unreached => absurd (here ▸ reached) unreached, ?_⟩
        intro agree dir
        have below : c.target <:+ q := here ▸ List.suffix_append u c.target
        obtain ⟨kind, attr₀⟩ := node
        obtain rfl : kind = .dir := dir
        rcases fits agree attr (here ▸ copy) (Or.inr below) with kept | ⟨v, attr', place', like, kept⟩
        · exact kept.trans (mode agree rfl)
        · obtain rfl := List.append_cancel_right (here.trans place')
          obtain rfl : attr' = attr₀ := by
            have both := like.symm.trans original
            cases both
            rfl
          exact kept
      · exact absurd (List.append_cancel_right (here.trans inside)) free
    · refine ⟨attr, ?_, owned, mode⟩
      rw [lookup_setAttr, if_neg here]
      exact copy

/-- The copy of an entry of the skeleton may be put in place. -/
theorem attach (keeps : c.Keeps t) {node : FileNode}
    (attached : t.attach (n :: r ++ c.target) node = some t')
    (like : c.originalKind (n :: r) = some node.kind)
    (own : ∀ text, node.kind = .link text → node.attr.uid = c.creator)
    (new : t.kindAt (n :: r ++ c.target) = none ∨ touched (n :: r)) :
    c.Progress touched t t' := by
  obtain ⟨-, -, -, -, -, notDir, found⟩ := attach_spec attached
  have kinds : ∀ p, p ≠ n :: r ++ c.target → t'.kindAt p = t.kindAt p := by
    intro p other
    rw [kindAt, found, if_neg other, kindAt]
  have self : t'.kindAt (n :: r ++ c.target) = some node.kind := by
    rw [kindAt, found, if_pos rfl, Option.map_some]
  have deeper : c.target ≠ n :: r ++ c.target := by
    intro same
    have lengths := congrArg List.length same
    simp only [List.cons_append, List.length_cons, List.length_append] at lengths
    omega
  have outer : ∀ p, ¬c.target <:+ p → p ≠ n :: r ++ c.target := by
    intro p out same
    exact out (same ▸ List.suffix_append (n :: r) c.target)
  constructor
  · refine ⟨⟨?_, ?_, ?_⟩, ?_, ?_, ?_⟩
    · intro p out
      rw [kinds p (outer p out)]
      exact keeps.outside p out
    · intro u k here proper
      by_cases same : u = n :: r
      · subst same
        rw [like, ← here, self]
      · rw [kinds _ fun both => same (List.append_cancel_right both)] at here
        exact keeps.inside u k here proper
    · rw [kinds _ deeper]
      exact keeps.dir
    · intro p out free
      rw [found, if_neg (outer p out)]
      exact keeps.attrs p out free
    · intro u text attr here
      rw [found] at here
      split_ifs at here with same
      · cases here
        exact own text rfl
      · exact keeps.links u text attr here
    · intro agree u attr original
      obtain ⟨attr', here, same⟩ := keeps.modes agree u attr original
      refine ⟨attr', ?_, same⟩
      rw [found, if_neg (outer _ (c.apart u))]
      exact here
  · intro p k here
    by_cases same : p = n :: r ++ c.target
    · subst same
      have copied := keeps.inside (n :: r) k here (by simp)
      rw [self, ← like, copied]
    · rw [kinds p same]
      exact here
  · intro u free done original is
    obtain ⟨attr, copy, settled⟩ := done original is
    refine ⟨attr, ?_, settled⟩
    have other : u ++ c.target ≠ n :: r ++ c.target := by
      intro same
      obtain rfl := List.append_cancel_right same
      rcases new with none | here
      · rw [kindAt_eq_none_iff.mp none] at copy
        cases copy
      · exact free here
    rw [found, if_neg other]
    exact copy

end Progress

/-! ## Making directories -/

/-- A name on the way to the copy of a directory is one of the path to the home directory, or that of
the copy of a directory. -/
theorem beginning_cases {path rest : FilePath} (dir : c.originalKind s = some .dir)
    (way : path ++ n :: rest = c.destPath s) :
    (∃ more, c.home = path ++ [n] ++ more) ∨
      ∃ r, path = c.destPath r ∧ c.originalKind (n :: r) = some .dir := by
  rcases name_of_path way with home | ⟨names, before, inside⟩
  · exact Or.inl home
  · refine Or.inr ⟨names.reverse, by rw [destPath, List.reverse_reverse]; exact before, ?_⟩
    obtain rfl : s = rest.reverse ++ n :: names.reverse := by
      rw [← List.reverse_reverse s, inside]
      simp
    by_cases last : rest.reverse = []
    · rw [last] at dir
      exact dir
    · unfold originalKind at dir ⊢
      rw [List.append_assoc] at dir
      apply kindAt_suffix (List.suffix_append rest.reverse _)
      · rw [dir]
        simp
      · intro same
        exact last (List.append_left_eq_self.mp same.symm)

theorem Within.home_beginning {path more : FilePath} (within : c.Within t)
    (home : c.home = path ++ more) :
    ∃ e, t.locate true path = some e ∧ t.kindAt e = some .dir := by
  have whole := within.grows.locate c.homeLeads
  rw [home] at whole
  exact locate_beginning whole within.dir

theorem plain_dir (dir : c.originalKind r = some .dir) :
    c.originalKind r ≠ none ∧ ∀ text, c.originalKind r ≠ some (.link text) := by
  rw [dir]
  simp

/-- The directories made on the way to the copy of a directory are copies of directories. -/
theorem Progress.mkdir {t₀ : Tree FileAttr Str} {path rest : FilePath} {d : Place} {attr : FileAttr}
    (dir : c.originalKind s = some .dir) (way : path ++ n :: rest = c.destPath s)
    (progress : c.Progress (fun _ => False) t₀ t) (leads : t.locate true path = some d)
    (free : t.kindAt (n :: d) = none) (attached : t.attach (n :: d) ⟨.dir, attr⟩ = some t') :
    c.Progress (fun _ => False) t₀ t' := by
  have keeps := progress.keeps
  rcases beginning_cases dir way with ⟨more, home⟩ | ⟨r, rfl, copy⟩
  · obtain ⟨e, located, -⟩ := keeps.home_beginning home
    obtain ⟨m, q, split, name, -⟩ := attach_spec attached
    obtain ⟨rfl, rfl⟩ := List.cons.inj split
    obtain ⟨d', leads', found, -⟩ := locate_concat name located
    obtain rfl := Option.some.inj (leads.symm.trans leads')
    exact absurd free found
  · obtain rfl := keeps.locate_copy_dir (originalKind_tail (plain_dir copy).1) leads
    exact progress.trans (Progress.attach keeps attached copy (fun text link => by cases link)
      (Or.inl free))

/-- The way to the copy of a directory can be made. -/
theorem passable {t₀ : Tree FileAttr Str} (dir : c.originalKind s = some .dir) :
    Passable (c.Progress (fun _ => False) t₀) (c.destPath s) := by
  intro path n rest d t way progress leads _
  have keeps := progress.keeps
  rcases beginning_cases dir way with ⟨more, home⟩ | ⟨r, rfl, copy⟩
  · exact Or.inl (keeps.home_beginning home)
  · obtain ⟨found, noLink⟩ := plain_dir copy
    obtain rfl := keeps.locate_copy_dir (originalKind_tail found) leads
    rw [← destPath_cons]
    cases located : t.locate true (c.destPath (n :: r)) with
    | some q =>
        refine Or.inl ⟨q, rfl, ?_⟩
        rw [(keeps.locate_copy found noLink located).2, copy]
    | none =>
        refine Or.inr ⟨rfl, isName_of_original found, ?_⟩
        by_contra here
        rw [keeps.locate_copied here noLink] at located
        cases located

/-! ## One entry -/

variable (c) in
/-- A part of the copy leads from one world to another. -/
structure Goes (touched : Place → Prop) (w w' : FileWorld) : Prop where
  progress : c.Progress touched w.tree w'.tree
  euid : w'.euid = w.euid

namespace Goes

variable {w w' w'' : FileWorld}

theorem keeps (goes : c.Goes touched w w') : c.Keeps w'.tree := goes.progress.keeps

theorem after (after : After w t w') (progress : c.Progress touched w.tree t) :
    c.Goes touched w w' :=
  ⟨by rw [after.tree]; exact progress, after.euid⟩

theorem read (keeps : c.Keeps w.tree) (read : After w w.tree w') (touched : Place → Prop) :
    c.Goes touched w w' := Goes.after read (Progress.refl keeps touched)

theorem trans (first : c.Goes touched w w') (second : c.Goes touched w' w'') :
    c.Goes touched w w'' :=
  ⟨first.progress.trans second.progress, second.euid.trans first.euid⟩

theorem mono (weaken : ∀ u, touched u → touched' u) (goes : c.Goes touched w w') :
    c.Goes touched' w w' := ⟨goes.progress.mono weaken, goes.euid⟩

end Goes

/-- The path to a copy leads to the copy, or is that of a link. -/
theorem Within.dest_place (within : c.Within t) (found : c.originalKind s ≠ none) {q : Place}
    (leads : t.locate true (c.destPath s) = some q) :
    ((∃ text, c.originalKind s = some (.link text)) ∧ c.Reached q) ∨
      ((∀ text, c.originalKind s ≠ some (.link text)) ∧ q = s ++ c.target ∧
        t.kindAt q = c.originalKind s) := by
  by_cases link : ∃ text, c.originalKind s = some (.link text)
  · obtain ⟨text, here⟩ := link
    exact Or.inl ⟨⟨text, here⟩, s, text, t, here, within, leads⟩
  · have noLink : ∀ text, c.originalKind s ≠ some (.link text) := not_exists.mp link
    exact Or.inr ⟨noLink, within.locate_copy found noLink leads⟩

theorem fits_owner {q : Place} {change : FileNode → FileAttr}
    (same : ∀ attr, SameMode (change ⟨.dir, attr⟩) attr) : c.Fits t q change :=
  fun _ attr _ _ => Or.inl (same attr)

theorem sameMode_mask (attr attr' : FileAttr) (mode : UInt32) (same : attr.mode = mode &&& 0xfff)
    (own : attr'.mode = mode) : SameMode attr attr' := by
  unfold SameMode
  rw [same, own, UInt32.and_assoc]
  rfl

theorem original_eq {node : FileNode} (here : c.original r = some node) :
    c.originalKind r = some node.kind := kindAt_of_lookup here

/-- The mode of what a link leads to fits where its copy leads to. -/
theorem Keeps.fits_mode (keeps : c.Keeps t) {text : Name} {p q : Place} {node : FileNode}
    (link : c.originalKind s = some (.link text)) (from' : t.locate true (c.srcPath s) = some p)
    (here : t.lookup p = some node) (leads : t.locate true (c.destPath s) = some q) :
    c.Fits t q fun copy => { copy.attr with mode := node.attr.mode &&& 0xfff } := by
  intro agree attr there below
  have isDir := kindAt_of_lookup there
  rcases agree s text t p q link keeps.toWithin from' leads isDir below with rfl | ⟨u, rfl, rfl⟩
  · obtain rfl := Option.some.inj (here.symm.trans there)
    exact Or.inl (sameMode_mask _ _ _ rfl rfl)
  · have copied : c.originalKind u = some .dir := by
      by_cases root : u = []
      · rw [root]
        exact c.sourceDir
      · exact keeps.inside u _ isDir root
    obtain ⟨attr₀, original⟩ := kindAt_eq_some_iff.mp copied
    obtain ⟨attr', now, same⟩ := keeps.modes agree u attr₀ original
    obtain rfl := Option.some.inj (here.symm.trans now)
    exact Or.inr ⟨u, attr₀, rfl, original, (sameMode_mask _ _ _ rfl rfl).trans same⟩

/-- Attributes are changed where the path leads to. -/
theorem changeAttr_goes {path : FilePath} {change : FileNode → FileAttr} {w : FileWorld}
    (keeps : c.Keeps w.tree) (place : ∀ q, w.tree.locate true path = some q →
      (c.Reached q ∧ c.Fits w.tree q change) ∨ q = s ++ c.target) :
    wp (changeAttr path change) (fun changed w' => c.Goes (· = s) w w' ∧
      (changed = true → ∃ q, w.tree.locate true path = some q ∧
        w'.tree = w.tree.setAttr q change) ∧
      (w.faults = [] → w'.faults = [] ∧ changed = (w.tree.locate true path).isSome)) w := by
  refine wp_mono (changeAttr_spec path change w) ?_
  intro changed w' spec
  obtain ⟨outcome, calm⟩ := spec
  rcases outcome with ⟨rfl, after⟩ | ⟨rfl, q, leads, after⟩
  · exact ⟨Goes.read keeps after _, by simp, fun quiet => ⟨after.calm quiet, calm quiet⟩⟩
  · have noLink := (locate_found leads).2 rfl
    exact ⟨Goes.after after (Progress.setAttr keeps noLink (place q leads)),
      fun _ => ⟨q, leads, after.tree⟩, fun quiet => ⟨after.calm quiet, calm quiet⟩⟩

variable (c) in
/-- The copy of an entry that is no link is there, and that of a directory has its mode. -/
def HasMode (t : Tree FileAttr Str) (s : Place) : Prop :=
  t.kindAt (s ++ c.target) = c.originalKind s ∧
    (c.LinksAgree → ∀ attr, c.original s = some ⟨.dir, attr⟩ →
      ∃ attr', t.lookup (s ++ c.target) = some ⟨.dir, attr'⟩ ∧ SameMode attr' attr)

/-- A change of the owner works on the entry, or on what the copy of a link leads to. -/
theorem Within.owner_place (within : c.Within t) (found : c.originalKind s ≠ none) {q : Place}
    {change : FileNode → FileAttr} (same : ∀ attr, SameMode (change ⟨.dir, attr⟩) attr)
    (leads : t.locate true (c.destPath s) = some q) :
    (c.Reached q ∧ c.Fits t q change) ∨ q = s ++ c.target := by
  rcases within.dest_place found leads with ⟨-, reached⟩ | ⟨-, inside, -⟩
  · exact Or.inl ⟨reached, fits_owner same⟩
  · exact Or.inr inside

theorem Within.locate_grown (within : c.Within t') (grows : Grows t t')
    (present : t.kindAt (s ++ c.target) ≠ none)
    (noLink : ∀ text, c.originalKind s ≠ some (.link text)) :
    t'.locate true (c.destPath s) = some (s ++ c.target) := by
  apply within.locate_copied _ noLink
  obtain ⟨k, here⟩ := Option.ne_none_iff_exists'.mp present
  rw [grows _ _ here]
  simp

/-- The attributes of an entry are copied to its copy, and those of what a link leads to to what the
copy of the link leads to. -/
theorem copyFileAttributes_goes {w : FileWorld} (keeps : c.Keeps w.tree)
    (found : c.originalKind s ≠ none) :
    wp (copyFileAttributes (some (c.srcPath s)) (c.destPath s)) (fun ok w' =>
      c.Goes (· = s) w w' ∧ ((∀ text, c.originalKind s ≠ some (.link text)) →
        (ok = true → c.HasMode w'.tree s) ∧
        (w.faults = [] → w.tree.kindAt (s ++ c.target) ≠ none → ok = true ∧ w'.faults = []))) w := by
  rw [copyFileAttributes, wp_bind]
  refine wp_mono (fileStat_spec true (c.srcPath s) w) ?_
  intro stat w₁ spec
  obtain ⟨read, from', calm⟩ := spec
  have keeps₁ : c.Keeps w₁.tree := by rw [read.tree]; exact keeps
  have start : c.Goes (· = s) w w₁ := Goes.read keeps read _
  cases stat with
  | none =>
      dsimp only
      rw [wp_pure]
      refine ⟨start, fun noLink => ⟨by simp, ?_⟩⟩
      intro quiet _
      have missing := calm quiet
      rw [keeps.locate_plain_source found noLink, Option.bind_some, eq_comm, ← kindAt_eq_none_iff,
        keeps.source_kind] at missing
      exact absurd missing found
  | some node =>
      obtain ⟨p, fromLeads, here⟩ := from' node rfl
      dsimp only
      rw [wp_bind, fileChmod]
      have place : ∀ q, w₁.tree.locate true (c.destPath s) = some q →
          (c.Reached q ∧ c.Fits w₁.tree q
            fun copy => { copy.attr with mode := node.attr.mode &&& 0xfff }) ∨
          q = s ++ c.target := by
        intro q leads
        rcases keeps₁.dest_place found leads with ⟨⟨text, link⟩, reached⟩ | ⟨-, inside, -⟩
        · rw [← read.tree] at fromLeads here
          exact Or.inl ⟨reached, keeps₁.fits_mode link fromLeads here leads⟩
        · exact Or.inr inside
      refine wp_mono (changeAttr_goes keeps₁ place) ?_
      intro changed w₂ spec
      obtain ⟨goes₂, where₂, calm₂⟩ := spec
      have goes := start.trans goes₂
      cases changed with
      | false =>
          simp only [Bool.not_false, if_true, wp_pure]
          refine ⟨goes, fun noLink => ⟨by simp, ?_⟩⟩
          intro quiet present
          have located := keeps₁.locate_grown start.progress.grows present noLink
          have success := (calm₂ (read.calm quiet)).2
          rw [located] at success
          cases success
      | true =>
          simp only [Bool.not_true, Bool.false_eq_true, if_false, fileChown]
          refine wp_mono (changeAttr_goes goes₂.keeps fun q leads =>
            goes₂.keeps.owner_place found (fun attr => rfl) leads) ?_
          intro owned w₃ spec
          obtain ⟨goes₃, where₃, calm₃⟩ := spec
          refine ⟨goes.trans goes₃, fun noLink => ⟨?_, ?_⟩⟩
          · intro done
            obtain ⟨q, leads, tree₂⟩ := where₂ rfl
            obtain ⟨q', leads', tree₃⟩ := where₃ done
            obtain ⟨rfl, kind⟩ := keeps₁.locate_copy found noLink leads
            obtain ⟨rfl, -⟩ := goes₂.keeps.locate_copy found noLink leads'
            refine ⟨by rw [tree₃, kindAt_setAttr, tree₂, kindAt_setAttr, kind], ?_⟩
            intro agree attr original
            obtain ⟨old, copy⟩ := kindAt_eq_some_iff.mp (kind.trans (original_eq original))
            have source := keeps.locate_plain_source found noLink
            obtain rfl := Option.some.inj (fromLeads.symm.trans source)
            obtain ⟨attr', now, same⟩ := keeps.modes agree _ _ original
            obtain rfl := Option.some.inj (here.symm.trans now)
            refine ⟨_, by
              rw [tree₃, tree₂]
              exact lookup_setAttr_self (lookup_setAttr_self copy _) _, ?_⟩
            exact (sameMode_mask _ _ _ rfl rfl).trans same
          · intro quiet present
            have located := goes₂.keeps.locate_grown goes.progress.grows present noLink
            obtain ⟨calmed', success⟩ := calm₃ (calm₂ (read.calm quiet)).1
            refine ⟨?_, calmed'⟩
            rw [success, located]
            rfl

/-- With the change of the owner the copy of an entry is finished. -/
theorem fileChown_goes {w : FileWorld} (keeps : c.Keeps w.tree) (found : c.originalKind s ≠ none)
    (copied : ∀ text, c.originalKind s = some (.link text) →
      w.tree.kindAt (s ++ c.target) = some (.link text))
    (hasMode : (∀ text, c.originalKind s ≠ some (.link text)) → c.HasMode w.tree s) :
    wp (fileChown (c.destPath s) c.uid c.gid) (fun ok w' => c.Goes (· = s) w w' ∧
      (ok = true → c.Copied w'.tree s) ∧
      (w.faults = [] → (∀ text, c.originalKind s ≠ some (.link text)) →
        ok = true ∧ w'.faults = [])) w := by
  rw [fileChown]
  refine wp_mono (changeAttr_goes keeps fun q leads =>
    keeps.owner_place found (fun attr => rfl) leads) ?_
  intro owned w₂ spec
  obtain ⟨goes, where₂, calm₂⟩ := spec
  refine ⟨goes, ?_, ?_⟩
  · intro done node original
    by_cases link : ∃ text, c.originalKind s = some (.link text)
    · obtain ⟨text, here⟩ := link
      have kind : node.kind = .link text :=
        Option.some.inj ((original_eq original).symm.trans here)
      obtain ⟨attr, there⟩ := kindAt_eq_some_iff.mp (goes.progress.grows _ _ (copied text here))
      refine ⟨attr, by rw [kind]; exact there, ?_, ?_⟩
      · intro noLink
        exact absurd kind (noLink text)
      · intro _ dir
        rw [kind] at dir
        cases dir
    · have noLink : ∀ text, c.originalKind s ≠ some (.link text) := not_exists.mp link
      obtain ⟨kind, mode⟩ := hasMode noLink
      rw [original_eq original] at kind
      obtain ⟨q, leads, tree₂⟩ := where₂ done
      obtain ⟨rfl, -⟩ := keeps.locate_copy found noLink leads
      obtain ⟨attr, copy⟩ := kindAt_eq_some_iff.mp kind
      refine ⟨_, by rw [tree₂]; exact lookup_setAttr_self copy _, ?_, ?_⟩
      · intro _ _
        exact ⟨fun given => if_neg given, fun given => if_neg given⟩
      · intro agree dir
        obtain ⟨kind₀, attr₀⟩ := node
        obtain rfl : kind₀ = .dir := dir
        obtain ⟨attr', copy', same⟩ := mode agree attr₀ original
        have both := copy.symm.trans copy'
        cases both
        exact same
  · intro quiet noLink
    have located := keeps.locate_copied (by rw [(hasMode noLink).1]; exact found) noLink
    obtain ⟨calmed, success⟩ := calm₂ quiet
    refine ⟨?_, calmed⟩
    rw [success, located]
    rfl

/-- An entry is finished: its copy has its attributes and belongs to the user. -/
theorem finish_goes {w : FileWorld} (keeps : c.Keeps w.tree) (found : c.originalKind s ≠ none)
    (copied : ∀ text, c.originalKind s = some (.link text) →
      w.tree.kindAt (s ++ c.target) = some (.link text)) :
    wp (do
        if !(← copyFileAttributes (some (c.srcPath s)) (c.destPath s)) then return false
        fileChown (c.destPath s) c.uid c.gid) (fun ok w' =>
      c.Goes (· = s) w w' ∧ (ok = true → c.Copied w'.tree s) ∧
      (w.faults = [] → (∀ text, c.originalKind s ≠ some (.link text)) →
        w.tree.kindAt (s ++ c.target) ≠ none → ok = true ∧ w'.faults = [])) w := by
  rw [wp_bind]
  refine wp_mono (copyFileAttributes_goes keeps found) ?_
  intro ok w₁ spec
  obtain ⟨goes₁, plain⟩ := spec
  cases ok with
  | false =>
      simp only [Bool.not_false, if_true, wp_pure]
      refine ⟨goes₁, by simp, ?_⟩
      intro quiet noLink present
      have success := ((plain noLink).2 quiet present).1
      cases success
  | true =>
      simp only [Bool.not_true, Bool.false_eq_true, if_false]
      have stillCopied : ∀ text, c.originalKind s = some (.link text) →
          w₁.tree.kindAt (s ++ c.target) = some (.link text) :=
        fun text link => goes₁.progress.grows _ _ (copied text link)
      refine wp_mono (fileChown_goes goes₁.keeps found stillCopied
        fun noLink => (plain noLink).1 rfl) ?_
      intro owned w₂ spec
      obtain ⟨goes₂, done, calm⟩ := spec
      refine ⟨goes₁.trans goes₂, done, ?_⟩
      intro quiet noLink present
      exact calm ((plain noLink).2 quiet present).2 noLink

/-- The copy of a file or link is put in place. -/
theorem attachCopy_goes {w : FileWorld} {node : FileNode} (keeps : c.Keeps w.tree)
    (like : c.originalKind (n :: r) = some node.kind) (notDir : node.kind ≠ .dir)
    (own : ∀ text, node.kind = .link text → node.attr.uid = c.creator) :
    wp (attachAt true (c.destPath (n :: r)) node) (fun ok w' => c.Goes (· = n :: r) w w' ∧
      (ok = true → w'.tree.kindAt (n :: r ++ c.target) = some node.kind) ∧
      (w.faults = [] → w.tree.kindAt (r ++ c.target) = some .dir →
        ok = true ∧ w'.faults = [])) w := by
  have found : c.originalKind (n :: r) ≠ none := by
    rw [like]
    simp
  have outer := originalKind_tail found
  rw [destPath_cons]
  refine wp_mono (attachAt_spec true (c.destPath r) n node w) ?_
  intro ok w' spec
  obtain ⟨outcome, calm⟩ := spec
  have success : w.faults = [] → w.tree.kindAt (r ++ c.target) = some .dir → ok = true := by
    intro quiet dir
    apply calm quiet (r ++ c.target) (keeps.locate_copied_dir dir) dir (isName_of_original found) _
      (Or.inl rfl)
    intro isDir
    have copied := keeps.inside (n :: r) _ isDir (by simp)
    rw [like] at copied
    exact notDir (Option.some.inj copied)
  rcases outcome with ⟨rfl, after⟩ | ⟨rfl, d, t, leads, -, attached, after⟩
  · refine ⟨Goes.read keeps after _, by simp, ?_⟩
    intro quiet dir
    exact ⟨success quiet dir, after.calm quiet⟩
  · obtain rfl := keeps.locate_copy_dir outer leads
    refine ⟨Goes.after after (Progress.attach keeps attached like own (Or.inr rfl)), ?_, ?_⟩
    · intro _
      obtain ⟨-, -, -, -, -, -, self⟩ := attach_spec attached
      rw [after.tree, kindAt, List.cons_append, self, if_pos rfl, Option.map_some]
    · intro quiet _
      exact ⟨rfl, after.calm quiet⟩

/-- A file or link is copied. -/
theorem gFileCopy_goes {w : FileWorld} (keeps : c.Keeps w.tree) (creator : w.euid = c.creator)
    (found : c.originalKind (n :: r) ≠ none) (notDir : c.originalKind (n :: r) ≠ some .dir) :
    wp (gFileCopy (c.srcPath (n :: r)) (c.destPath (n :: r))) (fun ok w' =>
      c.Goes (· = n :: r) w w' ∧
      (ok = true → w'.tree.kindAt (n :: r ++ c.target) = c.originalKind (n :: r)) ∧
      (w.faults = [] → w.tree.kindAt (r ++ c.target) = some .dir →
        ok = true ∧ w'.faults = [])) w := by
  simp only [gFileCopy, wp_bind, wp_get]
  refine wp_mono (fileStat_spec false (c.srcPath (n :: r)) w) ?_
  intro stat w₁ spec
  obtain ⟨read, from', calm⟩ := spec
  have source := keeps.locate_source false found (Or.inr rfl)
  have keeps₁ : c.Keeps w₁.tree := by rw [read.tree]; exact keeps
  have start : c.Goes (· = n :: r) w w₁ := Goes.read keeps read _
  cases stat with
  | none =>
      dsimp only
      rw [wp_pure]
      refine ⟨start, by simp, ?_⟩
      intro quiet _
      have missing := calm quiet
      rw [source, Option.bind_some, eq_comm, ← kindAt_eq_none_iff, keeps.source_kind] at missing
      exact absurd missing found
  | some node =>
      obtain ⟨p, leads, here⟩ := from' node rfl
      obtain rfl := Option.some.inj (leads.symm.trans source)
      have like : c.originalKind (n :: r) = some node.kind := by
        rw [← keeps.source_kind]
        exact kindAt_of_lookup here
      have copy : ∀ copied : FileNode, copied.kind = node.kind →
          (∀ text, copied.kind = .link text → copied.attr.uid = c.creator) →
          wp (attachAt true (c.destPath (n :: r)) copied) (fun ok w' =>
            c.Goes (· = n :: r) w w' ∧
            (ok = true → w'.tree.kindAt (n :: r ++ c.target) = c.originalKind (n :: r)) ∧
            (w.faults = [] → w.tree.kindAt (r ++ c.target) = some .dir →
              ok = true ∧ w'.faults = [])) w₁ := by
        intro copied same own
        have notDir' : copied.kind ≠ .dir := by
          intro dir
          rw [same] at dir
          exact notDir (by rw [like, dir])
        refine wp_mono (attachCopy_goes keeps₁ (by rw [like, same]) notDir' own) ?_
        intro ok w₂ spec
        obtain ⟨goes, done, quiet⟩ := spec
        refine ⟨start.trans goes, ?_, ?_⟩
        · intro success
          rw [done success, like, same]
        · intro calm dir
          rw [← read.tree] at dir
          exact quiet (read.calm calm) dir
      dsimp only
      split
      · rename_i dir
        exact absurd (by rw [like, dir]) notDir
      · rename_i content file
        apply copy _ file.symm
        intro text link
        cases link
      · rename_i text link
        apply copy _ link.symm
        intro _ _
        exact creator

/-! ## The recursion -/

/-- The entries below a directory. -/
def Below (r u : Place) : Prop := r <:+ u ∧ u ≠ r

variable (c) in
def NoLinks : Prop := ∀ r text, c.originalKind r ≠ some (.link text)

variable (c) in
/-- The copy of a directory works on what lies below it, and copies all of it if it succeeds. -/
def CopiesBelow (r : Place) (copyDir : FilePath → FilePath → TreeM (Option GError)) : Prop :=
  ∀ w, c.Keeps w.tree → w.euid = c.creator →
    wp (copyDir (c.srcPath r) (c.destPath r)) (fun error w' => c.Goes (Below r) w w' ∧
      (error = none → ∀ u, Below r u → c.Copied w'.tree u) ∧
      (w.faults = [] → c.NoLinks → w.tree.kindAt (r ++ c.target) = some .dir →
        error = none ∧ w'.faults = [])) w

/-- Nothing lies below an entry that is no directory. -/
theorem copied_below_file (notDir : c.originalKind s ≠ some .dir) {u : Place} (below : Below s u) :
    c.Copied t u := by
  intro node original
  have found : c.start.kindAt (u ++ c.source) ≠ none := by
    rw [kindAt_of_lookup original]
    simp
  refine absurd (kindAt_suffix ?_ found ?_) notDir
  · obtain ⟨deeper, rfl⟩ := below.1
    rw [List.append_assoc]
    exact List.suffix_append _ _
  · intro same
    exact below.2 (List.append_cancel_right same).symm

/-- The directory for the copy of a directory is made. -/
theorem gMkdir_goes {mode : UInt32} {w : FileWorld} (keeps : c.Keeps w.tree)
    (dir : c.originalKind (n :: r) = some .dir) :
    wp (gMkdirWithParents (c.destPath (n :: r)) mode) (fun _ w' => c.Goes (fun _ => False) w w' ∧
      (w.faults = [] → w'.faults = [] ∧ w'.tree.kindAt (n :: r ++ c.target) = some .dir)) w := by
  unfold gMkdirWithParents
  refine wp_mono (mkdirFrom_spec (I := c.Progress (fun _ => False) w.tree) ?_ _ [] rfl w
    (Progress.refl keeps _)) ?_
  · intro path n rest d t t' attr way progress leads free attached
    exact progress.mkdir dir way leads free attached
  · intro made w' spec
    obtain ⟨progress, euid, calm⟩ := spec
    refine ⟨⟨progress, euid⟩, ?_⟩
    intro quiet
    obtain ⟨-, calmed, e, leads, isDir⟩ := calm quiet (passable dir) [] rfl w.tree.kindAt_root
    obtain ⟨found, noLink⟩ := plain_dir dir
    obtain ⟨rfl, -⟩ := progress.keeps.locate_copy found noLink leads
    exact ⟨calmed, isDir⟩

/-- One name of the loop: the entry and all below it are copied. -/
theorem copyEntry_goes {copyDir : FilePath → FilePath → TreeM (Option GError)} {umask : UInt32}
    {w : FileWorld} (keeps : c.Keeps w.tree) (creator : w.euid = c.creator)
    (found : c.originalKind (n :: r) ≠ none)
    (deeper : c.originalKind (n :: r) = some .dir → c.CopiesBelow (n :: r) copyDir) :
    wp (copyEntry copyDir (c.srcPath (n :: r)) (c.destPath (n :: r)) c.uid c.gid umask)
      (fun ok w' => c.Goes (n :: r <:+ ·) w w' ∧
        (ok = true → ∀ u, n :: r <:+ u → c.Copied w'.tree u) ∧
        (w.faults = [] → c.NoLinks → w.tree.kindAt (r ++ c.target) = some .dir →
          ok = true ∧ w'.faults = [])) w := by
  have here : ∀ u, u = n :: r → n :: r <:+ u := by
    intro u same
    rw [same]
  rw [copyEntry, wp_bind]
  refine wp_mono (fileStat_spec false (c.srcPath (n :: r)) w) ?_
  intro stat w₁ spec
  obtain ⟨read, from', calm⟩ := spec
  have source := keeps.locate_source false found (Or.inr rfl)
  have keeps₁ : c.Keeps w₁.tree := by rw [read.tree]; exact keeps
  have creator₁ : w₁.euid = c.creator := read.euid.trans creator
  have start : c.Goes (n :: r <:+ ·) w w₁ := Goes.read keeps read _
  cases stat with
  | none =>
      dsimp only
      rw [wp_pure]
      refine ⟨start, by simp, ?_⟩
      intro quiet _ _
      have missing := calm quiet
      rw [source, Option.bind_some, eq_comm, ← kindAt_eq_none_iff, keeps.source_kind] at missing
      exact absurd missing found
  | some node =>
      obtain ⟨p, leads, lies⟩ := from' node rfl
      obtain rfl := Option.some.inj (leads.symm.trans source)
      have like : c.originalKind (n :: r) = some node.kind := by
        rw [← keeps.source_kind]
        exact kindAt_of_lookup lies
      dsimp only
      split_ifs with isDir
      · rw [isDir] at like
        rw [wp_bind]
        refine wp_mono (gMkdir_goes keeps₁ like) ?_
        intro _ w₂ spec
        obtain ⟨made, calm₂⟩ := spec
        have goes₂ : c.Goes (n :: r <:+ ·) w w₂ := start.trans (made.mono fun _ no => no.elim)
        rw [wp_bind]
        refine wp_mono (deeper like w₂ goes₂.keeps (goes₂.euid.trans creator)) ?_
        intro error w₃ spec
        obtain ⟨copied, all, calm₃⟩ := spec
        have goes₃ : c.Goes (n :: r <:+ ·) w w₃ := goes₂.trans (copied.mono fun u below => below.1)
        cases error with
        | some error =>
            simp only [Option.isSome_some, if_true, wp_pure]
            refine ⟨goes₃, by simp, ?_⟩
            intro quiet noLinks _
            obtain ⟨calmed, dir⟩ := calm₂ (read.calm quiet)
            have success := (calm₃ calmed noLinks dir).1
            cases success
        | none =>
            simp only [Option.isSome_none, Bool.false_eq_true, if_false]
            have noLink : ∀ text, c.originalKind (n :: r) = some (.link text) →
                w₃.tree.kindAt (n :: r ++ c.target) = some (.link text) := by
              intro text link
              rw [like] at link
              cases link
            refine wp_mono (finish_goes goes₃.keeps found noLink) ?_
            intro ok w₄ spec
            obtain ⟨finished, done, calm₄⟩ := spec
            refine ⟨goes₃.trans (finished.mono here), ?_, ?_⟩
            · intro success u below
              by_cases same : u = n :: r
              · rw [same]
                exact done success
              · exact finished.progress.copied u same (all rfl u ⟨below, same⟩)
            · intro quiet noLinks _
              obtain ⟨calmed, dir⟩ := calm₂ (read.calm quiet)
              have calmed₃ := (calm₃ calmed noLinks dir).2
              refine calm₄ calmed₃ (noLinks _) ?_
              rw [copied.progress.grows _ _ dir]
              simp
      · have notDir : c.originalKind (n :: r) ≠ some .dir := by
          intro dir
          exact isDir (Option.some.inj (like.symm.trans dir))
        rw [wp_bind]
        refine wp_mono (gFileCopy_goes keeps₁ creator₁ found notDir) ?_
        intro ok w₂ spec
        obtain ⟨copied, same, calm₂⟩ := spec
        have goes₂ : c.Goes (n :: r <:+ ·) w w₂ := start.trans (copied.mono here)
        cases ok with
        | false =>
            simp only [Bool.not_false, if_true, wp_pure]
            refine ⟨goes₂, by simp, ?_⟩
            intro quiet _ dir
            rw [← read.tree] at dir
            have success := (calm₂ (read.calm quiet) dir).1
            cases success
        | true =>
            simp only [Bool.not_true, Bool.false_eq_true, if_false]
            refine wp_mono (finish_goes goes₂.keeps found fun text link => (same rfl).trans link) ?_
            intro ok w₃ spec
            obtain ⟨finished, done, calm₃⟩ := spec
            refine ⟨goes₂.trans (finished.mono here), ?_, ?_⟩
            · intro success u below
              by_cases self : u = n :: r
              · rw [self]
                exact done success
              · exact copied_below_file notDir ⟨below, self⟩
            · intro quiet noLinks dir
              rw [← read.tree] at dir
              refine calm₃ (calm₂ (read.calm quiet) dir).2 (noLinks _) ?_
              rw [same rfl]
              exact found

/-- The loop over names of a directory copies the entries and all below them. -/
theorem copyEntries_goes {copyDir : FilePath → FilePath → TreeM (Option GError)} {umask : UInt32}
    (names : List Name) (found : ∀ n ∈ names, c.originalKind (n :: r) ≠ none)
    (deeper : ∀ n, c.originalKind (n :: r) = some .dir → c.CopiesBelow (n :: r) copyDir)
    (w : FileWorld) (keeps : c.Keeps w.tree) (creator : w.euid = c.creator) :
    wp (copyEntries copyDir (c.srcPath r) (c.destPath r) c.uid c.gid umask names)
      (fun ok w' => c.Goes (fun u => ∃ n ∈ names, n :: r <:+ u) w w' ∧
        (ok = true → ∀ u, (∃ n ∈ names, n :: r <:+ u) → c.Copied w'.tree u) ∧
        (w.faults = [] → c.NoLinks → w.tree.kindAt (r ++ c.target) = some .dir →
          ok = true ∧ w'.faults = [])) w := by
  induction names generalizing w with
  | nil =>
      rw [copyEntries, wp_pure]
      refine ⟨⟨Progress.refl keeps _, rfl⟩, ?_, fun quiet _ _ => ⟨rfl, quiet⟩⟩
      intro _ u entry
      obtain ⟨n, mem, _⟩ := entry
      cases mem
  | cons n rest ih =>
      have others : ∀ m ∈ rest, c.originalKind (m :: r) ≠ none :=
        fun m mem => found m (List.mem_cons_of_mem _ mem)
      have wider : ∀ u, n :: r <:+ u → ∃ m ∈ n :: rest, m :: r <:+ u :=
        fun u below => ⟨n, List.mem_cons_self, below⟩
      rw [copyEntries, wp_bind, ← srcPath_cons, ← destPath_cons]
      refine wp_mono (copyEntry_goes keeps creator (found n List.mem_cons_self) (deeper n)) ?_
      intro ok w₁ spec
      obtain ⟨first, copied, calm₁⟩ := spec
      cases ok with
      | false =>
          simp only [Bool.not_false, if_true, wp_pure]
          refine ⟨first.mono wider, by simp, ?_⟩
          intro quiet noLinks dir
          have success := (calm₁ quiet noLinks dir).1
          cases success
      | true =>
          simp only [Bool.not_true, Bool.false_eq_true, if_false]
          refine wp_mono (ih others w₁ first.keeps (first.euid.trans creator)) ?_
          intro ok w₂ spec
          obtain ⟨second, copied₂, calm₂⟩ := spec
          refine ⟨(first.mono wider).trans (second.mono ?_), ?_, ?_⟩
          · intro u entry
            obtain ⟨m, mem, below⟩ := entry
            exact ⟨m, List.mem_cons_of_mem _ mem, below⟩
          · intro success u entry
            obtain ⟨m, mem, below⟩ := entry
            by_cases again : ∃ m ∈ rest, m :: r <:+ u
            · exact copied₂ success u again
            · rcases List.mem_cons.mp mem with rfl | later
              · exact second.progress.copied u again (copied rfl u below)
              · exact absurd ⟨m, later, below⟩ again
          · intro quiet noLinks dir
            obtain ⟨-, calmed⟩ := calm₁ quiet noLinks dir
            exact calm₂ calmed noLinks (first.progress.grows _ _ dir)

/-- What lies below a directory lies at or below one of its entries. -/
theorem below_iff {u : Place} : Below r u ↔ ∃ n, n :: r <:+ u := by
  constructor
  · intro below
    obtain ⟨⟨deeper, split⟩, proper⟩ := below
    rcases List.eq_nil_or_concat deeper with rfl | ⟨above, n, rfl⟩
    · exact absurd split.symm proper
    · refine ⟨n, above, ?_⟩
      rw [← split, List.concat_eq_append, List.append_assoc]
      rfl
  · intro ⟨n, below⟩
    refine ⟨(List.suffix_cons n r).trans below, ?_⟩
    intro same
    have lengths := below.length_le
    rw [same, List.length_cons] at lengths
    omega

/-- The copy of a directory ends, works on what lies below it only, and copies all of it if it
succeeds. -/
theorem copyDirRecursively_goes (umask : UInt32) {bound : Nat}
    (shallow : ∀ r, c.originalKind r ≠ none → r.length ≤ bound) (fuel : Nat) (r : Place)
    (enough : bound < fuel + r.length) (dir : c.originalKind r = some .dir) :
    c.CopiesBelow r fun src dest => copyDirRecursively c.uid c.gid umask fuel (some src) dest := by
  induction fuel generalizing r with
  | zero =>
      have inside := shallow r (by rw [dir]; simp)
      omega
  | succ fuel ih =>
      intro w keeps creator
      have deeper : ∀ n, c.originalKind (n :: r) = some .dir → c.CopiesBelow (n :: r)
          fun src dest => copyDirRecursively c.uid c.gid umask fuel (some src) dest := by
        intro n dir
        apply ih (n :: r) _ dir
        rw [List.length_cons]
        omega
      dsimp only
      rw [copyDirRecursively, wp_bind]
      refine wp_mono (gDirOpen_spec (c.srcPath r) w) ?_
      intro opened w₁ spec
      obtain ⟨read, names, calm⟩ := spec
      have source := keeps.locate_source_dir dir
      have keeps₁ : c.Keeps w₁.tree := by rw [read.tree]; exact keeps
      cases opened with
      | none =>
          dsimp only
          rw [wp_pure]
          refine ⟨Goes.read keeps read _, by simp, ?_⟩
          intro quiet _ _
          have success := calm quiet _ source (by rw [keeps.source_kind, dir])
          cases success
      | some found =>
          obtain ⟨p, leads, -, rfl⟩ := names found rfl
          obtain rfl := Option.some.inj (leads.symm.trans source)
          have entries : ∀ n, n ∈ w.tree.children (r ++ c.source) ↔
              c.originalKind (n :: r) ≠ none := by
            intro n
            rw [mem_children, ← keeps.source_kind]
            rfl
          dsimp only
          rw [wp_bind]
          refine wp_mono (copyEntries_goes _ (fun n mem => (entries n).mp mem) deeper w₁ keeps₁
            (read.euid.trans creator)) ?_
          intro ok w₂ spec
          obtain ⟨goes, copied, calm₂⟩ := spec
          have touched : c.Goes (Below r) w w₂ := by
            refine (Goes.read keeps read _).trans (goes.mono ?_)
            intro u entry
            obtain ⟨n, _, below⟩ := entry
            exact below_iff.mpr ⟨n, below⟩
          have quietly : w.faults = [] → c.NoLinks → w.tree.kindAt (r ++ c.target) = some .dir →
              ok = true ∧ w₂.faults = [] := by
            intro quiet noLinks dir
            rw [← read.tree] at dir
            exact calm₂ (read.calm quiet) noLinks dir
          cases ok with
          | false =>
              simp only [Bool.not_false, if_true, wp_pure]
              refine ⟨touched, by simp, ?_⟩
              intro quiet noLinks dir
              have success := (quietly quiet noLinks dir).1
              cases success
          | true =>
              simp only [Bool.not_true, Bool.false_eq_true, if_false, wp_pure]
              refine ⟨touched, ?_, fun quiet noLinks dir => ⟨trivial, (quietly quiet noLinks dir).2⟩⟩
              intro _ u below node original
              obtain ⟨n, under⟩ := below_iff.mp below
              have entry : c.originalKind (n :: r) ≠ none := by
                intro missing
                have gone := kindAt_below_none (t := c.start) (p := u ++ c.source) (by
                  obtain ⟨deeper, rfl⟩ := under
                  rw [List.append_assoc]
                  exact List.suffix_append _ _) missing
                rw [kindAt_of_lookup original] at gone
                cases gone
              exact copied rfl u ⟨n, (entries n).mpr entry, under⟩ node original

end Copying

end Gumd
