import Gumd.AtomicRewrite

/-!
# Processes and the database files

The daemon, clients in offline mode and other tools work on the same files.  Each holds the lock for the
whole of an operation that writes, and may die holding it; who only reads takes no lock.  The system calls
of all of them come in any order.  It is as if each rewrite were one step, and as if a file were read at once
when it is opened.
-/

namespace Gumd

open Calls Rewrite

/-- The path of a database file. -/
abbrev DbPath (db : DbPaths) := { path : Str // path ∈ db.paths }

/-- What an operation does while it has the lock: it reads files and rewrites them, and goes on from what it
finds. -/
inductive DbWork (db : DbPaths) (ε α : Type) where
  | done (result : α)
  | look (path : DbPath db) (opens : Bool) (next : Option (List ε) → DbWork db ε α)
  | rewrite (path : DbPath db) (calls : FileCalls) (flushes : Nat → Bool) (callback : GumFileUpdateCB ε)
      (next : Except GError Unit → DbWork db ε α)

namespace DbWork

variable {db : DbPaths} {ε α : Type}

/-- The system calls of the operation. -/
def steps (pid : Nat) : DbWork db ε α → Calls (Volume Str ε) α
  | .done a => .done a
  | .look path opens next => do
      let found ← perform fun v => (if opens then v.read path else none, v)
      (next found).steps pid
  | .rewrite path calls flushes callback next => do
      let r ← Rewrite.gumFileUpdate calls flushes callback path pid
      (next r).steps pid

/-- The operation with each rewrite in one step. -/
def whole : DbWork db ε α → Calls (Str → Option (List ε)) α
  | .done a => .done a
  | .look path opens next => do
      let found ← perform fun files => (if opens then files path else none, files)
      (next found).whole
  | .rewrite path calls _ callback next => do
      let r ← update calls callback path
      (next r).whole

theorem simulates_steps (work : DbWork db ε α) (pid : Nat) {v : Volume Str ε}
    {files : Str → Option (List ε)} (shows : Represents db v files) :
    Simulates (Represents db) (Volume.Preserves db.Scratch) (work.steps pid) v work.whole files := by
  induction work generalizing v files with
  | done a => exact .done shows
  | look path opens next ih =>
    refine .both shows (.refl v) ?_
    dsimp only
    rw [shows.shown path path.property]
    exact ih _ shows
  | rewrite path calls flushes callback next ih =>
    exact (simulates_gumFileUpdate shows path.property flushes pid).bind fun r _ _ shows => ih r shows

end DbWork

/-! ## Processes -/

/-- What happens. -/
inductive ProcessEvent (db : DbPaths) (ε α : Type) where
  | start (pid : Nat) (work : DbWork db ε α)
  | next
  | killed
  | powerFailure (garbage : Nat → List ε)
  | opens (reader : Nat) (path : DbPath db)
  | reads (reader : Nat)

/-- What comes from outside: everything but going on. -/
def ProcessEvent.outside {db : DbPaths} {ε α : Type} : ProcessEvent db ε α → Bool
  | .next | .reads _ => false
  | _ => true

/-- What processes find out. -/
inductive ProcessAnswer (ε α : Type) where
  | alreadyLocked (pid : Nat)
  | result (pid : Nat) (a : α)
  | content (reader : Nat) (content : Option (List ε))

/-- Processes on a volume: the one that has the lock with the rest of its operation, and those that read
with the file they have opened and what they have read of it. -/
structure Processes (ε α : Type) where
  volume : Volume Str ε
  holder : Option (Nat × Calls (Volume Str ε) α)
  readers : Nat → Option (Nat × List ε)

namespace Processes

variable {db : DbPaths} {ε α : Type}

/-- The process that has the lock makes its next call, or releases the lock. -/
def goOn (m : Processes ε α) : List (ProcessAnswer ε α) × Processes ε α :=
  match m.holder with
  | none => ([], m)
  | some (pid, .done a) => ([.result pid a], { m with holder := none })
  | some (pid, .call effect next) =>
      ([], { m with volume := effect m.volume, holder := some (pid, next m.volume) })

/-- A process that reads gets the next entry of the file it has opened, or closes it at its end. -/
def readOn (reader : Nat) (m : Processes ε α) : List (ProcessAnswer ε α) × Processes ε α :=
  match m.readers reader with
  | none => ([], m)
  | some (inode, seen) =>
      match (m.volume.content inode)[seen.length]? with
      | some e => ([], { m with readers := Function.update m.readers reader (some (inode, seen ++ [e])) })
      | none => ([.content reader (some seen)], { m with readers := Function.update m.readers reader none })

def step (m : Processes ε α) : ProcessEvent db ε α → List (ProcessAnswer ε α) × Processes ε α
  | .start pid work =>
      if m.holder.isSome then ([.alreadyLocked pid], m)
      else ([], { m with holder := some (pid, work.steps pid) })
  | .next => m.goOn
  | .killed => ([], { m with holder := none })
  | .powerFailure garbage => ([], ⟨m.volume.powerFailure garbage, none, fun _ => none⟩)
  | .opens reader path =>
      match m.volume.entries path with
      | none => ([.content reader none], { m with readers := Function.update m.readers reader none })
      | some inode => ([], { m with readers := Function.update m.readers reader (some (inode, [])) })
  | .reads reader => m.readOn reader

def run (m : Processes ε α) : List (ProcessEvent db ε α) → List (ProcessAnswer ε α) × Processes ε α
  | [] => ([], m)
  | e :: rest =>
      let (answers, m) := m.step e
      let (later, m) := m.run rest
      (answers ++ later, m)

end Processes

/-! ## Whole rewrites -/

/-- Processes on files that are rewritten in one step and read at once when they are opened. -/
structure WholeProcesses (ε α : Type) where
  files : Str → Option (List ε)
  holder : Option (Nat × Calls (Str → Option (List ε)) α)
  readers : Nat → Option (List ε)

namespace WholeProcesses

variable {db : DbPaths} {ε α : Type}

def goOn (w : WholeProcesses ε α) : List (ProcessAnswer ε α) × WholeProcesses ε α :=
  match w.holder with
  | none => ([], w)
  | some (pid, .done a) => ([.result pid a], { w with holder := none })
  | some (pid, .call effect next) =>
      ([], { w with files := effect w.files, holder := some (pid, next w.files) })

def readOn (reader : Nat) (w : WholeProcesses ε α) : List (ProcessAnswer ε α) × WholeProcesses ε α :=
  match w.readers reader with
  | none => ([], w)
  | some content =>
      ([.content reader (some content)], { w with readers := Function.update w.readers reader none })

def step (w : WholeProcesses ε α) : ProcessEvent db ε α → List (ProcessAnswer ε α) × WholeProcesses ε α
  | .start pid work =>
      if w.holder.isSome then ([.alreadyLocked pid], w)
      else ([], { w with holder := some (pid, work.whole) })
  | .next => w.goOn
  | .killed => ([], { w with holder := none })
  | .powerFailure _ => ([], ⟨w.files, none, fun _ => none⟩)
  | .opens reader path =>
      match w.files path with
      | none => ([.content reader none], { w with readers := Function.update w.readers reader none })
      | some content => ([], { w with readers := Function.update w.readers reader (some content) })
  | .reads reader => w.readOn reader

def run (w : WholeProcesses ε α) : List (ProcessEvent db ε α) → List (ProcessAnswer ε α) × WholeProcesses ε α
  | [] => ([], w)
  | e :: rest =>
      let (answers, w) := w.step e
      let (later, w) := w.run rest
      (answers ++ later, w)

theorem run_append (w : WholeProcesses ε α) (first rest : List (ProcessEvent db ε α)) :
    w.run (first ++ rest) = ((w.run first).1 ++ ((w.run first).2.run rest).1, ((w.run first).2.run rest).2) := by
  induction first generalizing w with
  | nil => rfl
  | cons e first ih =>
    rw [List.cons_append, run, run]
    dsimp only
    rw [ih, List.append_assoc]

theorem run_single (w : WholeProcesses ε α) (e : ProcessEvent db ε α) : w.run [e] = w.step e := by
  simp [run]

/-- Calls of the process that has the lock. -/
theorem run_goes {w : WholeProcesses ε α} {pid n : Nat} {p q : Calls (Str → Option (List ε)) α}
    {t : Str → Option (List ε)} (holds : w.holder = some (pid, p)) (goes : Goes p w.files n q t) :
    w.run (List.replicate n (.next : ProcessEvent db ε α)) =
      ([], { w with files := t, holder := some (pid, q) }) := by
  generalize start : w.files = s at goes
  induction goes generalizing w with
  | refl =>
    subst start
    rw [List.replicate_zero, run, ← holds]
  | @call g after s n q t goes ih =>
    subst start
    rw [List.replicate_succ, run, step, goOn, holds]
    dsimp only
    rw [ih rfl rfl, List.nil_append]

end WholeProcesses

/-! ## Simulation -/

variable {db : DbPaths} {ε α : Type} {m : Processes ε α} {w : WholeProcesses ε α}

/-- A process that reads has read a part of what the file had when it was opened, and of what it has. -/
structure Reading (db : DbPaths) (v : Volume Str ε) (inode : Nat) (seen content : List ε) : Prop where
  still : v.Sealed db.Scratch inode
  same : v.content inode = content
  seen : seen <+: content

theorem Reading.preserved {v v' : Volume Str ε} {inode : Nat} {seen content : List ε}
    (reading : Reading db v inode seen content) (preserves : v.Preserves db.Scratch v') :
    Reading db v' inode seen content := by
  obtain ⟨still, same⟩ := preserves inode reading.still
  exact ⟨still, same.trans reading.same, reading.seen⟩

/-- The same processes with whole rewrites. -/
structure SeenWhole (db : DbPaths) (m : Processes ε α) (w : WholeProcesses ε α) : Prop where
  represents : Represents db m.volume w.files
  idle : m.holder = none → w.holder = none
  busy : ∀ pid p, m.holder = some (pid, p) → ∃ q, w.holder = some (pid, q) ∧
    Simulates (Represents db) (Volume.Preserves db.Scratch) p m.volume q w.files
  closed : ∀ reader, m.readers reader = none → w.readers reader = none
  reading : ∀ reader inode seen, m.readers reader = some (inode, seen) →
    ∃ content, w.readers reader = some content ∧ Reading db m.volume inode seen content

namespace SeenWhole

/-- An event, and the events that answer to it. -/
def Answers (db : DbPaths) (m : Processes ε α) (w : WholeProcesses ε α) (e : ProcessEvent db ε α) : Prop :=
  ∃ events : List (ProcessEvent db ε α), events.filter (·.outside) = [e].filter (·.outside) ∧
    (w.run events).1 = (m.step e).1 ∧ SeenWhole db (m.step e).2 (w.run events).2

/-- The table of those that read changes on both sides. -/
theorem setReader (seen : SeenWhole db m w) (reader : Nat) {entry : Option (Nat × List ε)}
    {content : Option (List ε)} (closed : entry = none → content = none)
    (reading : ∀ inode seen, entry = some (inode, seen) →
      ∃ c, content = some c ∧ Reading db m.volume inode seen c) :
    SeenWhole db { m with readers := Function.update m.readers reader entry }
      { w with readers := Function.update w.readers reader content } := by
  refine ⟨seen.represents, seen.idle, seen.busy, fun other => ?_, fun other inode part => ?_⟩
  · dsimp only
    by_cases same : other = reader
    · rw [same, Function.update_self, Function.update_self]
      exact closed
    · rw [Function.update_of_ne same, Function.update_of_ne same]
      exact seen.closed other
  · dsimp only
    by_cases same : other = reader
    · rw [same, Function.update_self, Function.update_self]
      exact reading inode part
    · rw [Function.update_of_ne same, Function.update_of_ne same]
      exact seen.reading other inode part

theorem answers_start (seen : SeenWhole db m w) (pid : Nat) (work : DbWork db ε α) :
    Answers db m w (.start pid work) := by
  refine ⟨[.start pid work], rfl, ?_⟩
  rw [WholeProcesses.run_single, WholeProcesses.step, Processes.step]
  cases holds : m.holder with
  | none =>
    rw [seen.idle holds]
    refine ⟨rfl, seen.represents, fun idle => (by cases idle), fun pid' p busy => ?_, seen.closed,
      seen.reading⟩
    cases busy
    exact ⟨_, rfl, work.simulates_steps pid seen.represents⟩
  | some holder =>
    obtain ⟨pid', p⟩ := holder
    obtain ⟨q, busy, -⟩ := seen.busy pid' p holds
    rw [busy]
    exact ⟨rfl, seen⟩

theorem answers_next (seen : SeenWhole db m w) : Answers db m w .next := by
  cases holds : m.holder with
  | none =>
    refine ⟨[], rfl, ?_⟩
    rw [WholeProcesses.run, Processes.step, Processes.goOn, holds]
    exact ⟨rfl, seen⟩
  | some holder =>
    obtain ⟨pid, p⟩ := holder
    obtain ⟨q, busy, simulates⟩ := seen.busy pid p holds
    cases p with
    | done a =>
      obtain ⟨n, t, goes, related⟩ := simulates.ends
      refine ⟨List.replicate n .next ++ [.next], by simp [ProcessEvent.outside], ?_⟩
      rw [WholeProcesses.run_append, WholeProcesses.run_goes busy goes, Processes.step, Processes.goOn,
        holds]
      exact ⟨rfl, related, fun _ => rfl, fun _ _ busy => (by cases busy), seen.closed, seen.reading⟩
    | call effect next =>
      obtain ⟨preserves, n, q', t, goes, rest⟩ := simulates.follows
      refine ⟨List.replicate n .next, by simp [ProcessEvent.outside], ?_⟩
      rw [WholeProcesses.run_goes busy goes, Processes.step, Processes.goOn, holds]
      refine ⟨rfl, rest.related, fun idle => (by cases idle), fun pid' p' busy => ?_, seen.closed,
        fun reader inode part opened => ?_⟩
      · cases busy
        exact ⟨q', rfl, rest⟩
      · obtain ⟨content, whole, reading⟩ := seen.reading reader inode part opened
        exact ⟨content, whole, reading.preserved preserves⟩

theorem answers_opens (seen : SeenWhole db m w) (reader : Nat) (path : DbPath db) :
    Answers db m w (.opens reader path) := by
  refine ⟨[.opens reader path], rfl, ?_⟩
  have shown := seen.represents.shown path path.property
  rw [WholeProcesses.run_single, WholeProcesses.step, Processes.step, ← shown, Volume.read]
  cases found : m.volume.entries path with
  | none =>
    exact ⟨rfl, seen.setReader reader (fun _ => rfl) fun _ _ opened => (by cases opened)⟩
  | some inode =>
    refine ⟨rfl, seen.setReader reader (fun none => (by cases none)) fun i part opened => ?_⟩
    cases opened
    exact ⟨_, rfl, seen.represents.still path path.property inode found, rfl, List.nil_prefix⟩

theorem answers_reads (seen : SeenWhole db m w) (reader : Nat) : Answers db m w (.reads reader) := by
  cases opened : m.readers reader with
  | none =>
    refine ⟨[], rfl, ?_⟩
    rw [WholeProcesses.run, Processes.step, Processes.readOn, opened]
    exact ⟨rfl, seen⟩
  | some entry =>
    obtain ⟨inode, part⟩ := entry
    obtain ⟨content, whole, reading⟩ := seen.reading reader inode part opened
    have same := reading.same
    cases more : (m.volume.content inode)[part.length]? with
    | some e =>
      refine ⟨[], rfl, ?_⟩
      rw [WholeProcesses.run, Processes.step, Processes.readOn, opened]
      dsimp only
      rw [more]
      refine ⟨rfl, ?_⟩
      have kept : SeenWhole db
          { m with readers := Function.update m.readers reader (some (inode, part ++ [e])) }
          { w with readers := Function.update w.readers reader (some content) } := by
        refine seen.setReader reader (fun none => (by cases none)) fun i part' again => ?_
        cases again
        refine ⟨content, rfl, reading.still, same, ?_⟩
        obtain ⟨rest, all⟩ := reading.seen
        rw [same, ← all, List.getElem?_append_right (Nat.le_refl _), Nat.sub_self] at more
        cases rest with
        | nil => cases more
        | cons next rest =>
          cases more
          exact ⟨rest, by rw [← all, List.append_assoc]; rfl⟩
      rwa [show Function.update w.readers reader (some content) = w.readers by
        rw [← whole, Function.update_eq_self]] at kept
    | none =>
      refine ⟨[.reads reader], rfl, ?_⟩
      rw [WholeProcesses.run_single, WholeProcesses.step, WholeProcesses.readOn, whole, Processes.step,
        Processes.readOn, opened]
      dsimp only
      rw [more]
      rw [same] at more
      have ended : part = content := reading.seen.eq_of_length_le (List.getElem?_eq_none_iff.mp more)
      rw [ended]
      exact ⟨rfl, seen.setReader reader (fun _ => rfl) fun _ _ opened => (by cases opened)⟩

theorem answers_killed (seen : SeenWhole db m w) : Answers db m w .killed :=
  ⟨[.killed], rfl, rfl, seen.represents, fun _ => rfl, fun _ _ busy => (by cases busy), seen.closed,
    seen.reading⟩

theorem answers_powerFailure (seen : SeenWhole db m w) (garbage : Nat → List ε) :
    Answers db m w (.powerFailure garbage) := by
  refine ⟨[.powerFailure garbage], rfl, rfl, ?_, fun _ => rfl, fun _ _ busy => (by cases busy),
    fun _ _ => rfl, fun _ _ _ opened => (by cases opened)⟩
  exact seen.represents.frame (Volume.preserves_powerFailure garbage m.volume) (fun _ _ => rfl)
    seen.represents.leftover

theorem answers (seen : SeenWhole db m w) (e : ProcessEvent db ε α) : Answers db m w e := by
  cases e with
  | start pid work => exact seen.answers_start pid work
  | next => exact seen.answers_next
  | killed => exact seen.answers_killed
  | powerFailure garbage => exact seen.answers_powerFailure garbage
  | opens reader path => exact seen.answers_opens reader path
  | reads reader => exact seen.answers_reads reader

theorem start {v : Volume Str ε} {files : Str → Option (List ε)} (shows : Represents db v files) :
    SeenWhole db (⟨v, none, fun _ => none⟩ : Processes ε α) ⟨files, none, fun _ => none⟩ :=
  ⟨shows, fun _ => rfl, fun _ _ busy => (by cases busy), fun _ _ => rfl,
    fun _ _ _ opened => (by cases opened)⟩

theorem run (seen : SeenWhole db m w) (events : List (ProcessEvent db ε α)) :
    ∃ events' : List (ProcessEvent db ε α),
      events'.filter (·.outside) = events.filter (·.outside) ∧
      (w.run events').1 = (m.run events).1 ∧ SeenWhole db (m.run events).2 (w.run events').2 := by
  induction events generalizing m w with
  | nil => exact ⟨[], rfl, rfl, seen⟩
  | cons e rest ih =>
    obtain ⟨first, same, answered, seen'⟩ := seen.answers e
    obtain ⟨later, same', answered', seen''⟩ := ih seen'
    refine ⟨first ++ later, ?_, ?_⟩
    · rw [List.filter_append, same, same', ← List.filter_append]
      rfl
    · rw [WholeProcesses.run_append, Processes.run]
      dsimp only
      rw [answered, answered']
      exact ⟨rfl, seen''⟩

end SeenWhole

/-- Whatever the processes do in whatever order, and wherever they are stopped, they find out what they
would if each rewrite were one step, and the files are as they would be. -/
theorem Processes.run_whole {v : Volume Str ε} {files : Str → Option (List ε)}
    (shows : Represents db v files) (events : List (ProcessEvent db ε α)) :
    ∃ events' : List (ProcessEvent db ε α),
      events'.filter (·.outside) = events.filter (·.outside) ∧
      (WholeProcesses.run ⟨files, none, fun _ => none⟩ events').1 =
        (Processes.run ⟨v, none, fun _ => none⟩ events).1 ∧
      ∀ path ∈ db.paths,
        (Processes.run ⟨v, none, fun _ => none⟩ events).2.volume.read path =
          (WholeProcesses.run ⟨files, none, fun _ => none⟩ events').2.files path := by
  obtain ⟨events', same, answered, seen⟩ := (SeenWhole.start shows).run events
  exact ⟨events', same, answered, seen.represents.shown⟩

namespace Sample

def etc : DbPaths where
  paths := [str "/etc/passwd", str "/etc/shadow", str "/etc/group", str "/etc/gshadow"]
  separate := by decide

def passwdPath : DbPath etc := ⟨str "/etc/passwd", by decide⟩

/-- A volume with a passwd file. -/
def etcVolume : Volume Str UInt8 where
  entries path := if path = passwdPath.val then some 0 else none
  inodes _ := ⟨str "root:x:0:0:root:/root:/bin/sh\n", true⟩
  next := 1
  fresh := by
    intro path i found
    split_ifs at found
    cases found
    exact Nat.one_pos

/-- A line is added to the passwd file, in small parts. -/
def addLine : DbWork etc UInt8 Bool :=
  .rewrite passwdPath ⟨true, true, true, true, true, true, true, true, true, true⟩ (fun left => left % 8 = 0)
    (fun content => (content ++ str "bob:x:1000:1000:bob:/home/bob:/bin/sh\n", none))
    fun r => .done r.isOk

/-- A process is killed while it adds a line, and the power fails just after another has done so. -/
def interruptedEvents : List (ProcessEvent etc UInt8 Bool) :=
  [.opens 1 passwdPath, .start 7 addLine, .next, .next, .next, .next, .reads 1, .killed, .start 8 addLine] ++
    List.replicate 17 .next ++ [.reads 1, .powerFailure fun _ => [], .opens 2 passwdPath]

theorem represents_etc : Represents etc etcVolume etcVolume.read := by
  apply represents_read
  · intro path i found
    change (if path = passwdPath.val then some 0 else none) = some i at found
    split_ifs at found with isPasswd
    exact isPasswd ▸ passwdPath.property
  · intro i
    rfl

theorem run_whole_interrupted : ∃ events' : List (ProcessEvent etc UInt8 Bool),
    events'.filter (·.outside) = interruptedEvents.filter (·.outside) ∧
    (WholeProcesses.run ⟨etcVolume.read, none, fun _ => none⟩ events').1 =
      (Processes.run ⟨etcVolume, none, fun _ => none⟩ interruptedEvents).1 ∧
    ∀ path ∈ etc.paths,
      (Processes.run ⟨etcVolume, none, fun _ => none⟩ interruptedEvents).2.volume.read path =
        (WholeProcesses.run ⟨etcVolume.read, none, fun _ => none⟩ events').2.files path :=
  Processes.run_whole represents_etc interruptedEvents

end Sample

/-! ## One operation after another -/

/-- The operation that an event starts. -/
def ProcessEvent.started : ProcessEvent db ε α → Option (Nat × DbWork db ε α)
  | .start pid work => some (pid, work)
  | _ => none

/-- The end of an operation. -/
def ProcessAnswer.ended : ProcessAnswer ε α → Option (Nat × α)
  | .result pid a => some (pid, a)
  | _ => none

/-- Operations one after another, each to its end or cut before one of its steps, with the results of those
that ended and the files they all leave. -/
inductive Serial (files : Str → Option (List ε)) :
    List (Nat × DbWork db ε α) → List (Nat × α) → (Str → Option (List ε)) → Prop
  | nil : Serial files [] [] files
  | ended {works : List (Nat × DbWork db ε α)} {results : List (Nat × α)} {f : Str → Option (List ε)}
      (pid : Nat) (work : DbWork db ε α) :
      Serial files works results f → Serial files (works ++ [(pid, work)])
        (results ++ [(pid, (work.whole.run f).1)]) (work.whole.run f).2
  | cut {works : List (Nat × DbWork db ε α)} {results : List (Nat × α)} {f t : Str → Option (List ε)}
      {n : Nat} {q : Calls (Str → Option (List ε)) α} (pid : Nat) (work : DbWork db ε α) :
      Serial files works results f → Goes work.whole f n q t → Serial files (works ++ [(pid, work)]) results t

/-- The operations so far are one after another; the last one may be on its way. -/
inductive InSerial (files : Str → Option (List ε)) :
    List (Nat × DbWork db ε α) → List (Nat × α) → WholeProcesses ε α → Prop
  | idle {works : List (Nat × DbWork db ε α)} {results : List (Nat × α)} {w : WholeProcesses ε α} :
      w.holder = none → Serial files works results w.files → InSerial files works results w
  | busy {works : List (Nat × DbWork db ε α)} {results : List (Nat × α)} {w : WholeProcesses ε α}
      {f : Str → Option (List ε)} {n pid : Nat} {q : Calls (Str → Option (List ε)) α}
      {work : DbWork db ε α} :
      w.holder = some (pid, q) → Serial files works results f → Goes work.whole f n q w.files →
      InSerial files (works ++ [(pid, work)]) results w

namespace InSerial

variable {files : Str → Option (List ε)} {works : List (Nat × DbWork db ε α)} {results : List (Nat × α)}
  {w : WholeProcesses ε α}

/-- Whoever stops an operation cuts it. -/
theorem serial (inSerial : InSerial files works results w) : Serial files works results w.files := by
  cases inSerial with
  | idle _ serial => exact serial
  | busy _ serial goes => exact .cut _ _ serial goes

/-- Those that read change nothing. -/
theorem congr {w' : WholeProcesses ε α} (inSerial : InSerial files works results w)
    (same : w'.files = w.files) (holder : w'.holder = w.holder) : InSerial files works results w' := by
  cases inSerial with
  | idle idle serial => exact .idle (holder.trans idle) (same ▸ serial)
  | busy busy serial goes => exact .busy (holder.trans busy) serial (same ▸ goes)

theorem goOn (inSerial : InSerial files works results w) :
    InSerial files works (results ++ w.goOn.1.filterMap (·.ended)) w.goOn.2 := by
  cases inSerial with
  | idle idle serial =>
    rw [WholeProcesses.goOn, idle]
    dsimp only
    rw [List.filterMap_nil, List.append_nil]
    exact .idle idle serial
  | @busy works results w f n pid q work busy serial goes =>
    rw [WholeProcesses.goOn, busy]
    cases q with
    | done a =>
      have ran : work.whole.run f = (a, w.files) := goes.run
      have ended := serial.ended pid work
      rw [ran] at ended
      exact .idle rfl ended
    | call effect next =>
      dsimp only
      rw [List.filterMap_nil, List.append_nil]
      exact .busy rfl serial goes.next

/-- What an event adds to the operations. -/
def Adds (files : Str → Option (List ε)) (works : List (Nat × DbWork db ε α)) (results : List (Nat × α))
    (w : WholeProcesses ε α) (e : ProcessEvent db ε α) : Prop :=
  ∃ new : List (Nat × DbWork db ε α), new.Sublist e.started.toList ∧
    InSerial files (works ++ new) (results ++ (w.step e).1.filterMap (·.ended)) (w.step e).2

/-- An event that neither starts nor ends an operation. -/
theorem adds_nothing {e : ProcessEvent db ε α} (quiet : (w.step e).1.filterMap (·.ended) = [])
    (next : InSerial files works results (w.step e).2) : Adds files works results w e := by
  refine ⟨[], List.nil_sublist _, ?_⟩
  rw [quiet, List.append_nil, List.append_nil]
  exact next

theorem adds_start (inSerial : InSerial files works results w) (pid : Nat) (work : DbWork db ε α) :
    Adds files works results w (.start pid work) := by
  have held := inSerial
  cases inSerial with
  | idle idle serial =>
    refine ⟨[(pid, work)], List.Sublist.refl _, ?_⟩
    rw [WholeProcesses.step, idle]
    dsimp only [Option.isSome_none]
    rw [if_neg Bool.false_ne_true, List.filterMap_nil, List.append_nil]
    exact .busy rfl serial .refl
  | busy busy serial goes =>
    have refused : w.step (.start pid work) = ([.alreadyLocked pid], w) := by
      rw [WholeProcesses.step, busy]
      rfl
    refine adds_nothing ?_ ?_
    · rw [refused]
      rfl
    · rw [refused]
      exact held

theorem adds_opens (inSerial : InSerial files works results w) (reader : Nat) (path : DbPath db) :
    Adds files works results w (.opens reader path) := by
  refine adds_nothing ?_ (inSerial.congr ?_ ?_)
  all_goals
    rw [WholeProcesses.step]
    cases w.files path <;> rfl

theorem adds_reads (inSerial : InSerial files works results w) (reader : Nat) :
    Adds files works results w (.reads reader : ProcessEvent db ε α) := by
  refine adds_nothing ?_ (inSerial.congr ?_ ?_)
  all_goals
    rw [WholeProcesses.step, WholeProcesses.readOn]
    cases w.readers reader <;> rfl

theorem adds (inSerial : InSerial files works results w) (e : ProcessEvent db ε α) :
    Adds files works results w e := by
  cases e with
  | start pid work => exact inSerial.adds_start pid work
  | next =>
    refine ⟨[], List.nil_sublist _, ?_⟩
    rw [List.append_nil]
    exact inSerial.goOn
  | killed => exact adds_nothing rfl (.idle rfl inSerial.serial)
  | powerFailure garbage => exact adds_nothing rfl (.idle rfl inSerial.serial)
  | opens reader path => exact inSerial.adds_opens reader path
  | reads reader => exact inSerial.adds_reads reader

theorem run (inSerial : InSerial files works results w) (events : List (ProcessEvent db ε α)) :
    ∃ new : List (Nat × DbWork db ε α), new.Sublist (events.filterMap (·.started)) ∧
      InSerial files (works ++ new) (results ++ (w.run events).1.filterMap (·.ended)) (w.run events).2 := by
  induction events generalizing works results w with
  | nil =>
    refine ⟨[], List.nil_sublist _, ?_⟩
    rw [WholeProcesses.run, List.filterMap_nil, List.append_nil, List.append_nil]
    exact inSerial
  | cons e rest ih =>
    obtain ⟨first, among, next⟩ := inSerial.adds e
    obtain ⟨later, among', last⟩ := ih next
    refine ⟨first ++ later, ?_, ?_⟩
    · have single : [e].filterMap (·.started) = e.started.toList := by
        cases started : e.started <;> simp [started]
      rw [← List.singleton_append, List.filterMap_append, single]
      exact among.append among'
    · rw [WholeProcesses.run]
      dsimp only
      rw [List.filterMap_append, ← List.append_assoc, ← List.append_assoc]
      exact last

end InSerial

/-- What is started comes from outside. -/
theorem filterMap_started (events : List (ProcessEvent db ε α)) :
    (events.filter (·.outside)).filterMap (·.started) = events.filterMap (·.started) := by
  rw [List.filterMap_filter]
  congr 1
  funext e
  cases e <;> rfl

/-- The operations of the processes come one after another, whatever order their system calls come in and
wherever they are stopped: the files are what the operations leave that were started, each run to its end or
cut before one of its rewrites, and those that ended had the results they have alone. -/
theorem Processes.run_serial {v : Volume Str ε} {files : Str → Option (List ε)}
    (shows : Represents db v files) (events : List (ProcessEvent db ε α)) :
    ∃ (works : List (Nat × DbWork db ε α)) (files' : Str → Option (List ε)),
      works.Sublist (events.filterMap (·.started)) ∧
      Serial files works ((Processes.run ⟨v, none, fun _ => none⟩ events).1.filterMap (·.ended)) files' ∧
      ∀ path ∈ db.paths,
        (Processes.run ⟨v, none, fun _ => none⟩ events).2.volume.read path = files' path := by
  obtain ⟨events', outside, answered, seen⟩ := (SeenWhole.start shows).run events
  have start : InSerial files ([] : List (Nat × DbWork db ε α)) [] ⟨files, none, fun _ => none⟩ :=
    .idle rfl .nil
  obtain ⟨works, among, inSerial⟩ := start.run events'
  rw [List.nil_append, List.nil_append, answered] at inSerial
  refine ⟨works, _, ?_, inSerial.serial, seen.represents.shown⟩
  rw [← filterMap_started, ← outside, filterMap_started]
  exact among

namespace Sample

/-- After the power failure a process adds a line and is not stopped. -/
def recoveredEvents : List (ProcessEvent etc UInt8 Bool) :=
  interruptedEvents ++ .start 9 addLine :: List.replicate 25 .next

theorem run_serial_recovered :
    ∃ (works : List (Nat × DbWork etc UInt8 Bool)) (files' : Str → Option (List UInt8)),
      works.Sublist (recoveredEvents.filterMap (·.started)) ∧
      Serial etcVolume.read works
        ((Processes.run ⟨etcVolume, none, fun _ => none⟩ recoveredEvents).1.filterMap (·.ended)) files' ∧
      ∀ path ∈ etc.paths,
        (Processes.run ⟨etcVolume, none, fun _ => none⟩ recoveredEvents).2.volume.read path = files' path :=
  Processes.run_serial represents_etc recoveredEvents

end Sample

end Gumd
