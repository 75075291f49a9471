import Gumd.HomeDir

/-!
# Deleting a home directory

The deletion ends, removes nothing outside the tree, and nothing of the tree is left if it succeeds.
-/

namespace Gumd

open FileTree FileTree.Tree TotalWp

variable {w : FileWorld} {t t' t'' : Tree FileAttr Str}

/-! ## What a deletion keeps -/

/-- Entries at and below a place are gone, and nothing else has changed. -/
def Pruned (place : Place) (t t' : Tree FileAttr Str) : Prop :=
  ∀ p, t'.lookup p = t.lookup p ∨ (place <:+ p ∧ t'.lookup p = none)

namespace Pruned

variable {place : Place}

theorem refl (place : Place) (t : Tree FileAttr Str) : Pruned place t t := fun _ => Or.inl rfl

theorem trans (first : Pruned place t t') (second : Pruned place t' t'') : Pruned place t t'' := by
  intro p
  rcases second p with same | gone
  · rw [same]
    exact first p
  · exact Or.inr gone

/-- What is pruned deeper is pruned here. -/
theorem up {name : Name} (pruned : Pruned (name :: place) t t') : Pruned place t t' := by
  intro p
  rcases pruned p with same | ⟨below, gone⟩
  · exact Or.inl same
  · exact Or.inr ⟨(List.suffix_cons name place).trans below, gone⟩

theorem remove {p : Place} (below : place <:+ p) (removed : t.remove p = some t') :
    Pruned place t t' := by
  intro q
  rw [(remove_spec removed).2.2 q]
  split_ifs with same
  · exact Or.inr ⟨same ▸ below, rfl⟩
  · exact Or.inl rfl

theorem grows (pruned : Pruned place t t') : Grows t' t := by
  intro p k found
  obtain ⟨a, here⟩ := kindAt_eq_some_iff.mp found
  rcases pruned p with same | ⟨-, gone⟩
  · exact kindAt_eq_some_iff.mpr ⟨a, same ▸ here⟩
  · rw [gone] at here
    cases here

end Pruned

/-- No entry lies deeper than this. -/
def Shallow (bound : Nat) (t : Tree FileAttr Str) : Prop :=
  ∀ p, t.kindAt p ≠ none → p.length ≤ bound

theorem Shallow.of_grows {bound : Nat} (shallow : Shallow bound t) (grows : Grows t' t) :
    Shallow bound t' := by
  intro p found
  obtain ⟨k, here⟩ := Option.ne_none_iff_exists'.mp found
  exact shallow p (by rw [grows p k here]; simp)

/-! ## The deletion -/

/-- The place of a directory that a path leads to without following a link at its end. -/
structure RealDir (t : Tree FileAttr Str) (path : FilePath) (place : Place) : Prop where
  leads : t.locate false path = some place
  dir : t.kindAt place = some .dir

theorem RealDir.follow {path : FilePath} {place : Place} (real : RealDir t path place) :
    t.locate true path = some place :=
  locate_follow (fun text => by rw [real.dir]; simp) real.leads

/-- The deletion of a directory at this depth. -/
def DeletesBelow (bound depth : Nat) (deleteDir : FilePath → TreeM (Option GError)) : Prop :=
  ∀ path place w, RealDir w.tree path place → Shallow bound w.tree → place.length = depth →
    wp (deleteDir path) (fun error w' => Pruned place w.tree w'.tree ∧
      (error = none → w'.tree.lookup place = none)) w

/-- The loop over the entries of a directory prunes the directory. -/
theorem deleteEntries_spec {bound : Nat} {deleteDir : FilePath → TreeM (Option GError)}
    {path : FilePath} {place : Place} (deletes : DeletesBelow bound (place.length + 1) deleteDir)
    (start : t.locate true path = some place) (shallow : Shallow bound t) (names : List Name)
    (valid : ∀ n ∈ names, IsName n) (w : FileWorld) (pruned : Pruned place t w.tree) :
    wp (deleteEntries deleteDir path names) (fun _ w' => Pruned place t w'.tree) w := by
  induction names generalizing w with
  | nil =>
      rw [deleteEntries, wp_pure]
      exact pruned
  | cons fname rest ih =>
      have name := valid fname List.mem_cons_self
      have others : ∀ n ∈ rest, IsName n := fun n mem => valid n (List.mem_cons_of_mem _ mem)
      have special : ¬(fname = dot ∨ fname = dotDot) := not_or_intro name.2.1 name.2.2.1
      -- an entry that is still found lies where it did
      have entry : ∀ {t' : Tree FileAttr Str} {p : Place}, Pruned place t t' →
          t'.locate false (path ++ [fname]) = some p → p = fname :: place := by
        intro t' p pruned leads
        exact locate_nofollow name start (pruned.grows.locate leads)
      rw [deleteEntries, if_neg special, wp_bind]
      refine wp_mono (fileStat_spec false (path ++ [fname]) w) ?_
      intro found w₁ spec
      obtain ⟨read, stat, -⟩ := spec
      have pruned₁ : Pruned place t w₁.tree := by rw [read.tree]; exact pruned
      cases found with
      | none =>
          dsimp only
          rw [wp_pure]
          exact pruned₁
      | some sent =>
          obtain ⟨p, leads, here⟩ := stat sent rfl
          obtain rfl := entry pruned leads
          dsimp only
          split_ifs with isDir
          · have real : RealDir w₁.tree (path ++ [fname]) (fname :: place) := by
              rw [read.tree]
              exact ⟨leads, by rw [kindAt_of_lookup here, isDir]⟩
            rw [wp_bind]
            refine wp_mono (deletes _ _ _ real (shallow.of_grows pruned₁.grows) rfl) ?_
            intro error w₂ spec
            obtain ⟨deeper, -⟩ := spec
            have pruned₂ := pruned₁.trans deeper.up
            rw [wp_ite, wp_pure]
            exact ⟨fun _ => pruned₂, fun _ => ih others w₂ pruned₂⟩
          · rw [wp_bind]
            refine wp_mono (gRemove_spec (path ++ [fname]) w₁) ?_
            intro removed w₂ outcome
            rcases outcome with ⟨rfl, after⟩ | ⟨rfl, p, t', leads', gone, after⟩
            · simp only [Bool.not_false, if_true, wp_pure]
              rw [after.tree]
              exact pruned₁
            · obtain rfl := entry pruned₁ leads'
              have pruned₂ : Pruned place t w₂.tree := by
                rw [after.tree]
                exact pruned₁.trans (Pruned.remove (List.suffix_cons fname place) gone)
              simp only [Bool.not_true, Bool.false_eq_true, if_false]
              exact ih others w₂ pruned₂

/-- The deletion prunes the directory, and the directory is gone if it succeeds. -/
theorem deleteHomeDirWithin_spec {bound : Nat} (fuel depth : Nat) (enough : bound < fuel + depth) :
    DeletesBelow bound depth fun path => deleteHomeDirWithin fuel (some path) := by
  induction fuel generalizing depth with
  | zero =>
      intro path place w real shallow size
      have inside := shallow place (by rw [real.dir]; simp)
      omega
  | succ fuel ih =>
      intro path place w real shallow size
      have deeper := ih (place.length + 1) (by omega)
      dsimp only
      rw [deleteHomeDirWithin, wp_bind]
      refine wp_mono (gDirOpen_spec path w) ?_
      intro opened w₁ spec
      obtain ⟨read, found, -⟩ := spec
      have real₁ : RealDir w₁.tree path place := by rw [read.tree]; exact real
      cases opened with
      | none =>
          dsimp only
          rw [wp_pure, read.tree]
          exact ⟨Pruned.refl _ _, by simp⟩
      | some names =>
          obtain ⟨p, leads, -, rfl⟩ := found names rfl
          obtain rfl := Option.some.inj (real.follow.symm.trans leads)
          have valid : ∀ n ∈ w.tree.children place, IsName n :=
            fun n mem => isName (mem_children.mp mem)
          have start : Pruned place w.tree w₁.tree := by rw [read.tree]; exact Pruned.refl _ _
          dsimp only
          rw [wp_bind]
          refine wp_mono (deleteEntries_spec deeper real.follow shallow _ valid w₁ start) ?_
          intro emptied w₂ pruned
          cases emptied with
          | false =>
              simp only [Bool.not_false, if_true, wp_pure]
              exact ⟨pruned, by simp⟩
          | true =>
              simp only [Bool.not_true, Bool.false_eq_true, if_false, wp_bind]
              refine wp_mono (gRemove_spec path w₂) ?_
              intro removed w₃ outcome
              rcases outcome with ⟨rfl, after⟩ | ⟨rfl, p, t', leads', gone, after⟩
              · simp only [Bool.not_false, if_true, wp_pure, after.tree]
                exact ⟨pruned, by simp⟩
              · obtain rfl := Option.some.inj
                  (real.leads.symm.trans (pruned.grows.locate leads'))
                simp only [Bool.not_true, Bool.false_eq_true, if_false, wp_pure, after.tree]
                refine ⟨pruned.trans (Pruned.remove (List.suffix_refl _) gone), ?_⟩
                intro _
                rw [(remove_spec gone).2.2, if_pos rfl]

/-- Deleting a home directory ends; nothing of its tree is left if it succeeds, and nothing outside
the tree changes in any case. -/
theorem deleteHomeDir_removes_tree {w : FileWorld} {dir : FilePath} {place : Place}
    (leads : w.tree.locate false dir = some place) (isDir : w.tree.kindAt place = some .dir) :
    ∃ error w', (gumFileDeleteHomeDir (some dir)).run w = some (error, w') ∧
      (error = none → ∀ p, place <:+ p → w'.tree.lookup p = none) ∧
      ∀ p, ¬place <:+ p → w'.tree.lookup p = w.tree.lookup p := by
  have shallow : Shallow w.tree.depth w.tree := fun p found => length_le_depth found
  have spec := deleteHomeDirWithin_spec (w.tree.depth + 1) place.length (by omega) dir place w
    ⟨leads, isDir⟩ shallow rfl
  obtain ⟨error, w', run, pruned, gone⟩ := spec
  refine ⟨error, w', run, ?_, ?_⟩
  · intro done p below
    exact kindAt_eq_none_iff.mp (kindAt_below_none below (kindAt_eq_none_iff.mpr (gone done)))
  · intro p outside
    rcases pruned p with same | ⟨below, -⟩
    · exact same
    · exact absurd below outside

namespace Sample

def rootAttr : FileAttr := ⟨0x1ed, 0, 0⟩

def aliceAttr : FileAttr := ⟨0x1c0, 1000, 1000⟩

/-- A home directory with a file and with links up into the tree and out of it. -/
def homeTree : Tree FileAttr Str :=
  (Tree.ofRoot rootAttr).attachAll
    [([str "etc"], ⟨.dir, rootAttr⟩), ([str "passwd", str "etc"], ⟨.file [], rootAttr⟩),
      ([str "home"], ⟨.dir, rootAttr⟩), ([str "alice", str "home"], ⟨.dir, aliceAttr⟩),
      ([str "notes", str "alice", str "home"], ⟨.file (str "n"), aliceAttr⟩),
      ([str "music", str "alice", str "home"], ⟨.dir, aliceAttr⟩),
      ([str "up", str "music", str "alice", str "home"], ⟨.link (str ".."), aliceAttr⟩),
      ([str "etc", str "music", str "alice", str "home"], ⟨.link (str "/etc"), aliceAttr⟩)]

def homeWorld : FileWorld := ⟨homeTree, [], 0, 0, 0⟩

theorem deleteHomeDir_removes_tree_alice :
    ∃ error w', (gumFileDeleteHomeDir (some [str "home", str "alice"])).run homeWorld =
        some (error, w') ∧
      (error = none → ∀ p, [str "alice", str "home"] <:+ p → w'.tree.lookup p = none) ∧
      ∀ p, ¬[str "alice", str "home"] <:+ p → w'.tree.lookup p = homeWorld.tree.lookup p :=
  deleteHomeDir_removes_tree (by decide +kernel) (by decide +kernel)

example : ((gumFileDeleteHomeDir (some [str "home", str "alice"])).run homeWorld).map
    (fun outcome => (outcome.1, outcome.2.tree.nodes.keys)) =
      some (none, [[str "home"], [str "passwd", str "etc"], [str "etc"], []]) := by
  decide +kernel

end Sample

end Gumd
