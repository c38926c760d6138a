import Quiesce.Http.PercentEncoding
import Quiesce.Text.Segments

/-!
# Paths

The path of a URL once the segments that only point elsewhere are followed: a dot stays in the
directory, and two dots leave it. A segment that looks like the letter of a disk drive is never
left, and at the head of a file's path it ends in a colon.

* `resolveDots` follows the dots.
* `normalPath` and `normalFilePath` are the one form of a path.
-/

namespace Quiesce.Http

open Text (segments joinSegments)

/-- Whether a segment stands for the directory itself. -/
def isDot (segment : List Char) : Bool :=
  [".", "%2e"].contains (String.ofList (segment.map Char.toLower))

/-- Whether a segment stands for the directory above. -/
def isDoubleDot (segment : List Char) : Bool :=
  ["..", ".%2e", "%2e.", "%2e%2e"].contains (String.ofList (segment.map Char.toLower))

/-- The letter of a drive, if the segment is one: a colon or a bar stands behind it. -/
def driveLetter? : List Char → Option Char
  | [letter, ':'] => if letter.isAlpha then some letter else none
  | [letter, '|'] => if letter.isAlpha then some letter else none
  | _ => none

/-- The segments above the directory that `done` leads to, in reverse order. -/
def leave (done : List (List Char)) : List (List Char) :=
  match done with
  | [] => []
  | s :: above => if (driveLetter? s).isSome then s :: above else above

/-- Walks through the segments of a path, `done` being those above in reverse order and `write` the
form of the next one. -/
def resolveDots (write : List (List Char) → List Char → List Char) (done : List (List Char)) :
    List (List Char) → List (List Char)
  | [] => done.reverse
  | s :: rest =>
    -- A path that ends in a dot segment ends in a slash.
    let close (done : List (List Char)) := if rest.isEmpty then [] :: done else done
    if isDoubleDot s then resolveDots write (close (leave done)) rest
    else if isDot s then resolveDots write (close done) rest
    else resolveDots write (write done s :: done) rest

/-- The segments of a path behind the slash that it begins with. -/
def innerSegments (isSlash : Char → Bool) (cs : List Char) : List (List Char) :=
  match cs with
  | [] => [[]]
  | c :: rest => segments isSlash (if isSlash c then rest else cs)

/-- The path that the characters between the host and the query stand for. -/
def normalPath (isSlash : Char → Bool) (cs : List Char) : List Char :=
  '/' :: joinSegments '/'
    (resolveDots (fun _ s => percentEncode unfitInPath s) [] (innerSegments isSlash cs))

/-- A segment of a file's path below `done`. -/
def fileSegment (done : List (List Char)) (s : List Char) : List Char :=
  match done, driveLetter? s with
  | [], some letter => [letter, ':']
  | _, _ => percentEncode unfitInPath s

/-- The path of a file, which has one slash at its head, and whether a drive stands there. -/
def normalFilePath (isSlash : Char → Bool) (cs : List Char) : List Char × Bool :=
  let found := resolveDots fileSegment [] (innerSegments isSlash cs)
  ('/' :: (joinSegments '/' found).dropWhile (· = '/'), found.head?.any fun s =>
    (driveLetter? s).isSome)

example : normalPath (· = '/') "/a/./b/../c d".toList = "/a/c%20d".toList := by decide +kernel

end Quiesce.Http
