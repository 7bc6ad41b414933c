/-
# Triage.Catalog -- the labels, milestones and users of a tracker

Issues and expressions refer to labels, milestones and users by name; a catalog turns a name into
what an issue can hold. Names are compared ignoring case, and of several matches the first counts.
-/
import Triage.Label

namespace Triage

open Triage.Text

set_option autoImplicit false

structure Milestone where
  id : UInt64
  title : String
  isOpen : Bool := true
deriving DecidableEq

structure User where
  login : String
  /-- The display name. -/
  name : Option String := none
deriving DecidableEq

structure Catalog where
  labels : List Label := []
  milestones : List Milestone := []
  users : List User := []
deriving DecidableEq

/-- Whether a query names the user, by login or by display name. -/
def User.isNamed (user : User) (query : String) : Bool :=
  sameName user.login query || user.name.any fun name => sameName name query

namespace Catalog

def label? (catalog : Catalog) (name : String) : Option Label :=
  catalog.labels.find? fun label => sameName label.name name

def milestone? (catalog : Catalog) (title : String) : Option Milestone :=
  catalog.milestones.find? fun milestone => sameName milestone.title title

def milestoneOf? (catalog : Catalog) (id : UInt64) : Option Milestone :=
  catalog.milestones.find? fun milestone => milestone.id = id

def user? (catalog : Catalog) (query : String) : Option User :=
  catalog.users.find? fun user => user.isNamed query

/-- The user of a login. -/
def userOf? (catalog : Catalog) (login : String) : Option User :=
  catalog.users.find? fun user => sameName user.login login

/-- Whether a query names the user of a login; a login outside the catalog is known by itself
only. -/
def loginNamed (catalog : Catalog) (login query : String) : Bool :=
  sameName login query || (catalog.userOf? login).any fun user => user.isNamed query

/-! ## Additions, at the end -/

def addLabel (catalog : Catalog) (name : String) : Catalog :=
  { catalog with labels := catalog.labels ++ [⟨name⟩] }

/-- Adds an open milestone. -/
def addMilestone (catalog : Catalog) (id : UInt64) (title : String) : Catalog :=
  { catalog with milestones := catalog.milestones ++ [{ id, title }] }

/-- Adds a user without a display name. -/
def addUser (catalog : Catalog) (login : String) : Catalog :=
  { catalog with users := catalog.users ++ [{ login }] }

end Catalog

end Triage
