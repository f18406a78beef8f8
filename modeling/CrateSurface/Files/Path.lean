namespace CrateSurface.Path

section Parts

variable {α : Type} [BEq α] (slash : α)

/-- Whether a path, whose names `slash` separates, starts from the root. -/
def startsAtRoot (path : List α) : Bool :=
  path.head? == some slash

/-- Puts `path` under `base`; a path from the root stands for itself. -/
def under (base path : List α) : List α :=
  if startsAtRoot slash path then path
  else if base.isEmpty || base.getLast? == some slash then base ++ path
  else base ++ slash :: path

/-- The part before the last slash, slash included, and the part after it. -/
def cutAtLast (path : List α) : List α × List α :=
  let fromEnd := path.reverse
  ((fromEnd.dropWhile (· != slash)).reverse, (fromEnd.takeWhile (· != slash)).reverse)

/-- The part before the last slash, without the slashes at its end unless it is nothing but
slashes. -/
def beforeLast (path : List α) : List α :=
  let head := (cutAtLast slash path).1
  if head.all (· == slash) then head else (head.reverse.dropWhile (· == slash)).reverse

end Parts

def isAbsolute (path : String) : Bool :=
  startsAtRoot '/' path.toList

/-- Puts `path` under `base`; an absolute `path` stands for itself. -/
def join (base path : String) : String :=
  String.ofList (under '/' base.toList path.toList)

/-- The part of a path after its last slash. -/
def name (path : String) : String :=
  String.ofList (cutAtLast '/' path.toList).2

/-- The part of a path before its last slash. -/
def parent (path : String) : String :=
  String.ofList (beforeLast '/' path.toList)

/-- A file name without its extension. Dots at the start of a name begin no extension. -/
def stem (name : String) : String :=
  let cs := name.toList
  let body := cs.dropWhile (· == '.')
  if body.contains '.' then
    String.ofList (((cs.reverse.dropWhile (· != '.')).drop 1).reverse)
  else name

/-- The names between the slashes of a path, empty ones included. -/
def names (path : String) : List String :=
  (path.toList.splitOn '/').map String.ofList

/-- The number of slashes that a normalised path starts with: two are kept, more count as one. -/
def rootSlashes (path : String) : Nat :=
  match (path.toList.takeWhile (· == '/')).length with
  | 0 => 0
  | 2 => 2
  | _ => 1

/-- The names of a path with `.` and empty names dropped and `..` taken back, last name first. -/
def normalNames (absolute : Bool) (names : List String) : List String :=
  names.foldl (fun done name =>
    if name == "" || name == "." then done
    else if name != ".." then name :: done
    else
      match done with
      | [] => if absolute then [] else [".."]
      | ".." :: _ => ".." :: done
      | _ :: rest => rest) []

/-- The path with `.`, `..` and repeated slashes taken out of its text. -/
def normal (path : String) : String :=
  let slashes := rootSlashes path
  let body := "/".intercalate (normalNames (slashes != 0) (names path)).reverse
  let whole := String.ofList (List.replicate slashes '/') ++ body
  if whole == "" then "." else whole

/-- The normal absolute form of a path that is read from the directory `base`. -/
def absolute (base path : String) : String :=
  normal (if isAbsolute path then path else join base path)

end CrateSurface.Path
