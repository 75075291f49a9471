import Gumd.Validate

/-!
# The database files

Each file is the list of its entries in order, as the `fget*ent` readers deliver them.  `gshadow`
may be missing.  A user's information file holds the icon path.
-/

namespace Gumd

/-- `GUM_USER_INVALID_UID`. -/
def gumUserInvalidUid : UInt32 := 0xffffffff

/-- `GUM_GROUP_INVALID_GID`, also written `G_MAXUINT` and `GUMD_DAEMON_GROUP_INVALID_GID`. -/
def gumGroupInvalidGid : UInt32 := 0xffffffff

/-- An entry of the passwd file. -/
structure Passwd where
  pwName : Str
  pwPasswd : Str
  pwUid : UInt32
  pwGid : UInt32
  pwGecos : Str
  pwDir : Str
  pwShell : Str
  deriving DecidableEq, Repr

/-- An entry of the shadow file. -/
structure Spwd where
  spNamp : Str
  spPwdp : Str
  spLstchg : Int
  spMin : Int
  spMax : Int
  spWarn : Int
  spInact : Int
  spExpire : Int
  spFlag : UInt64
  deriving DecidableEq, Repr

/-- An entry of the group file. -/
structure Group where
  grName : Str
  grPasswd : Str
  grGid : UInt32
  grMem : List Str
  deriving DecidableEq, Repr

/-- An entry of the gshadow file. -/
structure Sgrp where
  sgNamp : Str
  sgPasswd : Str
  sgAdm : List Str
  sgMem : List Str
  deriving DecidableEq, Repr

/-- The content of a user information file. -/
structure Userinfo where
  icon : Option Str
  deriving DecidableEq, Repr

structure Files where
  passwd : List Passwd
  shadow : List Spwd
  group : List Group
  gshadow : Option (List Sgrp)
  userinfo : UInt32 → Option Userinfo

/-- One database file among the others: its entries, `none` while it does not exist, and the
result of renaming a rewritten copy to it. -/
structure DbFile (ε : Type) where
  entries : Files → Option (List ε)
  rename : List ε → Files → Files

def passwdFile : DbFile Passwd := ⟨fun f => some f.passwd, fun l f => { f with passwd := l }⟩
def shadowFile : DbFile Spwd := ⟨fun f => some f.shadow, fun l f => { f with shadow := l }⟩
def groupFile : DbFile Group := ⟨fun f => some f.group, fun l f => { f with group := l }⟩
def gshadowFile : DbFile Sgrp := ⟨Files.gshadow, fun l f => { f with gshadow := some l }⟩

/-! ## The entry a lookup finds -/

namespace Files

def getpwnam (f : Files) (username : Str) : Option Passwd :=
  f.passwd.find? (·.pwName == username)

def getpwuid (f : Files) (uid : UInt32) : Option Passwd := f.passwd.find? (·.pwUid == uid)

def getspnam (f : Files) (username : Str) : Option Spwd :=
  f.shadow.find? (·.spNamp == username)

def getgrnam (f : Files) (grname : Str) : Option Group := f.group.find? (·.grName == grname)

def getgrgid (f : Files) (gid : UInt32) : Option Group := f.group.find? (·.grGid == gid)

def getsgnam (f : Files) (grname : Str) : Option Sgrp :=
  (f.gshadow.getD []).find? (·.sgNamp == grname)

end Files

end Gumd
