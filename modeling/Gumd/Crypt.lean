import Gumd.StringUtils

/-!
# Encryption of secrets

`crypt` is the C library's one-way function of a secret and a salt; `NULL` is its failure.
`urandom` is what the one read of `/dev/urandom` delivers, empty when the device cannot be opened.
-/

namespace Gumd

/-- `_salt_chars`. -/
def saltChars : Str := str "./0123456789ABCDEFGHIJKLMNOPQRSTUVWXYZabcdefghijklmnopqrstuvwxyz"

/-- `METHODID_LEN`. -/
def methodidLen : Nat := 3

/-- `SALT_LEN`. -/
def saltLen : Nat := 16

/-- The method identifier `_generate_salt` writes first. -/
def saltMethodId (encrypAlgo : Option Str) : Str :=
  if gStrcmp0 encrypAlgo (some (str "MD5")) = 0 then str "$1$"
  else if gStrcmp0 encrypAlgo (some (str "SHA256")) = 0 then str "$5$"
  else if gStrcmp0 encrypAlgo (some (str "SHA512")) = 0 then str "$6$"
  else []

/-- `_generate_salt`. -/
def generateSalt (urandom : List UInt8) (encrypAlgo : Option Str) : Option Str :=
  if urandom.length ≠ saltLen then none
  else some (saltMethodId encrypAlgo ++
    urandom.map fun byte => saltChars.getD (byte &&& 0x3f).toNat 0)

def gumCryptEncryptSecret (crypt : Str → Str → Option Str) (urandom : List UInt8)
    (secret : Str) (encrypAlgo : Option Str) : Option Str :=
  match generateSalt urandom encrypAlgo with
  | none => none
  | some salt => crypt secret salt

def isDigit (c : UInt8) : Bool := 0x30 ≤ c && c ≤ 0x39

/-- The length of the method identifier an encrypted secret starts with. -/
def encMethodidLen : Str → Nat
  | 0x24 :: d :: 0x24 :: _ => if isDigit d then methodidLen else 0
  | _ => 0

/-- `_extract_salt`: everything before the first `$` after the method identifier. -/
def extractSalt (encSecret : Option Str) : Option Str :=
  match encSecret with
  | none => none
  | some enc =>
      let idLen := encMethodidLen enc
      let rest := enc.drop idLen
      if rest.contains 0x24 then some (enc.take idLen ++ rest.takeWhile (· ≠ 0x24)) else none

def gumCryptCmpSecret (crypt : Str → Str → Option Str) (plainStr1 encStr2 : Option Str) : Int :=
  match plainStr1, encStr2 with
  | some plain, some _ =>
      match extractSalt encStr2 with
      | none => -1
      | some salt => gStrcmp0 (crypt plain salt) encStr2
  | _, _ => -1

end Gumd
