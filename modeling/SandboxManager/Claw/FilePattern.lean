import SandboxManager.Bytes

/-! File patterns of a policy (`sandbox_glob_pattern.cpp`).

A path with a star is a pattern. A legal one has one `**`, a whole component: what stands before
it is the path that is opened, what stands after it is matched as the end of a name. -/
namespace SandboxManager.Claw
open Library

structure FilePattern where
  pfx : Bytes
  suffix : Bytes
deriving DecidableEq

def star : UInt8 := 42
def globStar : Bytes := [star, star]

/-- `std::string::find`: where the text first occurs. -/
def findText (text path : Bytes) : Option Nat := path.tails.findIdx? (text.isPrefixOf ·)

def isWildcardPattern (path : Bytes) : Bool := path.contains star

def GLOB_STAR_LEN : Nat := 2
def STAR_TAIL_LEAD_LEN : Nat := 2

/-! The checks, each with why it refuses. -/

def checkPatternAbsolute (pattern : Bytes) : Except Bytes Unit :=
  if pattern.head? ≠ some slash then .error (bytes "must be an absolute path") else .ok ()

/-- Where the one `**` stands. -/
def findSingleGlobStar (pattern : Bytes) : Except Bytes Nat :=
  match findText globStar pattern with
  | none => .error (bytes "'*' must be part of a '**'")
  | some start =>
    if (findText globStar (pattern.drop (start + GLOB_STAR_LEN))).isSome then
      .error (bytes "must contain exactly one '**'")
    else .ok start

def checkGlobStarBoundaries (pattern : Bytes) (start : Nat) : Except Bytes Unit :=
  let afterStar := pattern.drop (start + GLOB_STAR_LEN)
  if start = 0 ∨ pattern[start - 1]? ≠ some slash then
    .error (bytes "the '**' must be preceded by '/'")
  else if afterStar ≠ [] ∧ afterStar.head? ≠ some slash then
    .error (bytes "the '**' must be followed by '/' or the end of the pattern")
  else .ok ()

def checkNoTrailingSlash (pattern : Bytes) : Except Bytes Unit :=
  if pattern.getLast? = some slash then
    .error (bytes "must not end with '/': the kernel cannot restrict a pattern to directories")
  else .ok ()

def checkNoSpecialComponents (path : Bytes) : Except Bytes Unit :=
  if (findText [slash, slash] path).isSome then
    .error (bytes "must not contain an empty path component")
  else if (segments slash path).any fun component =>
      component == bytes "." || component == bytes ".." then
    .error (bytes "must not contain a '.' or '..' path component")
  else .ok ()

/-- Whether the tail is led by a star. -/
def checkPatternSuffix (suffix : Bytes) : Except Bytes Bool :=
  if suffix = [] then .ok false
  else if suffix[STAR_TAIL_LEAD_LEN - 1]? = some star then
    let literal := suffix.drop STAR_TAIL_LEAD_LEN
    if literal.contains slash then
      .error (bytes "the '*' after '**/' may only match the final path component")
    else if literal.contains star then
      .error (bytes "'*' must be the only wildcard in the final component")
    else .ok true
  else if suffix.contains star then
    .error (bytes "'*' after '**' may only lead the final component ('**/*<literal>')")
  else
    match checkNoSpecialComponents suffix with
    | .error why => .error why
    | .ok () => .ok false

def checkNoUnsupportedMetaChars (pattern : Bytes) : Except Bytes Unit :=
  match pattern.find? fun c => (bytes "?[]\x7b\x7d").contains c with
  | some c => .error (bytes "unsupported glob metacharacter '" ++ [c] ++ bytes "'")
  | none =>
    if pattern.contains 92 then .error (bytes "escape sequences are not supported") else .ok ()

def checkPatternPrefix (pfx : Bytes) : Except Bytes Unit :=
  if pfx.contains star then .error (bytes "'*' is only allowed as part of the single '**'")
  else checkNoSpecialComponents pfx

def parseFilePattern (pattern : Bytes) : Except Bytes FilePattern := do
  checkPatternAbsolute pattern
  let start ← findSingleGlobStar pattern
  checkGlobStarBoundaries pattern start
  checkNoTrailingSlash pattern
  let pfx := pattern.take start
  let suffix := pattern.drop (start + GLOB_STAR_LEN)
  let starLed ← checkPatternSuffix suffix
  checkNoUnsupportedMetaChars pattern
  checkPatternPrefix pfx
  return ⟨pfx, if starLed then suffix.drop STAR_TAIL_LEAD_LEN else suffix⟩

end SandboxManager.Claw
