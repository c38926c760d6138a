import Quiesce.Json.Basic
import Quiesce.Text.Blank

/-!
# Scopes

Where a runner is registered: an enterprise, an organization or a repository.

* `Scope.level?` is the level that a scope resolves to: the broadest one whose text is not blank.
-/

namespace Quiesce

/-- The three places that may be named; usually one of them is. -/
structure Scope where
  enterprise : Option String
  organization : Option String
  /-- A repository as `owner/name`. -/
  repository : Option String
deriving DecidableEq, Repr, Inhabited

/-- The one place that a scope comes down to. -/
inductive Scope.Level where
  | enterprise (name : String)
  | organization (name : String)
  | repository (name : String)
deriving DecidableEq, Repr

namespace Scope

def empty : Scope := ⟨none, none, none⟩

def ofEnterprise (name : String) : Scope := ⟨some name, none, none⟩

def ofOrganization (name : String) : Scope := ⟨none, some name, none⟩

def ofRepository (name : String) : Scope := ⟨none, none, some name⟩

/-- A name that is there and not blank. -/
def named (name : Option String) : Option String :=
  name.filter fun s => !Text.isAllBlank s

/-- The level of a scope: enterprise before organization before repository, of those that are
named. -/
def level? (s : Scope) : Option Level :=
  match named s.enterprise with
  | some e => some (.enterprise e)
  | none =>
    match named s.organization with
    | some o => some (.organization o)
    | none => (named s.repository).map .repository

def Level.kind : Level → String
  | .enterprise _ => "enterprise"
  | .organization _ => "organization"
  | .repository _ => "repository"

def Level.name : Level → String
  | .enterprise e => e
  | .organization o => o
  | .repository r => r

/-- The scope in messages: kind and text of its level. -/
def describe (s : Scope) : String :=
  match s.level? with
  | some l => l.kind ++ "/" ++ l.name
  | none => "<empty scope>"

def toJson (s : Scope) : Json :=
  .ofFields [
    ("enterprise", .ofOption .ofText s.enterprise),
    ("organization", .ofOption .ofText s.organization),
    ("repository", .ofOption .ofText s.repository)]

end Scope

end Quiesce
