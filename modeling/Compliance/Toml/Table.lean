import Compliance.Toml.Fault

/-!
# Compliance.Toml.Table

Tables that grow key by key.

* `Route`           — how a path leads through tables.
* `Table.changeAt`  — changes the table to which a path leads.
* `Table.ofPairs`   — the table between braces with given pairs.
* `Draft`           — a document of which a part has been read.
* `Draft.addHeader` — goes on in the table under a header.
* `Draft.addPair`   — sets a key of the current table.
-/

namespace Compliance.Toml

/-- How a path leads through tables. -/
inductive Route where
  /-- Through the tables of a document to the one that a header names. -/
  | header
  /-- By the points of a key, from the current table on. -/
  | points
  /-- By the points of a key between braces. -/
  | inlinePoints
  deriving DecidableEq

namespace Route

/-- The form of the tables that a route makes on its way. -/
def newForm : Route → Form
  | .header => .implied
  | .points => .dotted
  | .inlinePoints => .dotted

/-- May a route enter a table that is there already? Points extend no table that was written as
such. -/
def mayEnter (r : Route) (form : Form) : Bool := r == .header || form.isUnwritten

/-- Does a route take a table between braces for a value? -/
def stopsAtBraces (r : Route) (form : Form) : Bool := r != .inlinePoints && form == .inline

end Route

namespace Table

def empty (form : Form) (place : Option Place) : Table := ⟨form, place, []⟩

/-- Changes the table to which a path leads, and makes the tables on the way that are not there
yet. In several tables of one name the way leads through the last one. `walked` is the path up to
the table `t`. -/
def changeAt (route : Route) (change : Table → Except Cause Table) (walked : List String) :
    List Key → Table → Except Cause Table
  | [], t => change t
  | key :: rest, t =>
    let walked := walked ++ [key.text]
    match t.find? key.text with
    | none =>
      (changeAt route change walked rest (empty route.newForm none)).map fun inner =>
        t.put key (.table inner)
    | some (.table inner) =>
      if route.stopsAtBraces inner.form then
        .error (.extendsValue walked (Item.table inner).kind)
      else if route.mayEnter inner.form then
        (changeAt route change walked rest inner).map fun inner => t.put key (.table inner)
      else .error (.duplicate key.text none)
    | some (.tables members) =>
      match members.getLast? with
      | none => .error (.duplicate key.text none)
      | some last =>
        (changeAt route change walked rest last).map fun last =>
          t.put key (.tables (members.dropLast ++ [last]))
    | some item => .error (.extendsValue walked item.kind)

/-- Sets a key that the table does not have yet. `owner` is the path that a refusal names. -/
def addNew (owner : Option (List String)) (key : Key) (item : Item) (t : Table) :
    Except Cause Table :=
  if (t.find? key.text).isSome then .error (.duplicate key.text owner) else .ok (t.put key item)

/-- Sets the key at the end of a path. A path of several keys ends in a table that only dotted
keys have made. -/
def addAt (route : Route) (owner : Option (List String)) (path : List Key) (item : Item)
    (t : Table) : Except Cause Table :=
  match path.getLast? with
  | none => .ok t
  | some key =>
    let way := path.dropLast
    let change (inner : Table) : Except Cause Table :=
      if (inner.form == .dotted) == way.isEmpty then .error (.duplicate key.text none)
      else addNew owner key item inner
    changeAt route change [] way t

/-- The table between braces with given pairs. -/
def ofPairs (pairs : List (List Key × Item)) : Except Cause Table :=
  pairs.foldlM (fun t p => addAt .inlinePoints none p.1 p.2 t) (empty .inline none)

end Table

/-! ## Documents -/

/-- A document of which a part has been read, and the path of its current table. -/
structure Draft where
  root : Table
  path : List Key

namespace Draft

def empty : Draft := ⟨Table.empty .headed (some ⟨0, 0⟩), []⟩

def texts (path : List Key) : List String := path.map (·.text)

/-- The table under a header in single brackets. It goes on with what a table has that was only
implied so far. -/
def openTable (place : Place) (owner : List String) (key : Key) (parent : Table) :
    Except Cause Table :=
  match parent.find? key.text with
  | none => .ok (parent.put key (.table (Table.empty .headed (some place))))
  | some (.table t) =>
    if t.form == .implied then
      .ok ((parent.erase key.text).put key (.table ⟨.headed, some place, t.entries⟩))
    else .error (.duplicate key.text (some owner))
  | some _ => .error (.duplicate key.text (some owner))

/-- A further table under a header in double brackets. -/
def openMember (place : Place) (owner : List String) (key : Key) (parent : Table) :
    Except Cause Table :=
  let member := Table.empty .headed (some place)
  match parent.find? key.text with
  | none => .ok (parent.put key (.tables [member]))
  | some (.tables members) => .ok (parent.put key (.tables (members ++ [member])))
  | some _ => .error (.duplicate key.text (some owner))

/-- Goes on in the table under a header. -/
def addHeader (isMember : Bool) (place : Place) (path : List Key) (d : Draft) :
    Except Cause Draft :=
  match path.getLast? with
  | none => .ok d
  | some key =>
    let owner := texts path.dropLast
    let change := if isMember then openMember place owner key else openTable place owner key
    (Table.changeAt .header change [] path.dropLast d.root).map fun root => ⟨root, path⟩

/-- The place of a table, up to the end of what was set last. -/
def extendPlace (item : Item) (t : Table) : Table :=
  match t.place, item.place? with
  | some place, some last => { t with place := some ⟨place.start, last.stop⟩ }
  | _, _ => t

/-- Sets a key of the current table. -/
def addPair (path : List Key) (item : Item) (d : Draft) : Except Cause Draft :=
  let change (t : Table) : Except Cause Table :=
    Table.addAt .points (some (texts d.path)) path item (extendPlace item t)
  (Table.changeAt .header change [] d.path d.root).map fun root => ⟨root, d.path⟩

end Draft

end Compliance.Toml
