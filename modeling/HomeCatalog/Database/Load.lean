import HomeCatalog.Database.Records

/-!
# Loading a database

A database is a folder with one document for each category of records. A missing document leaves its
category empty, but a folder without any is no database. Categories are read one after the other, so
the first fault in this order is the one that is reported.
-/

namespace HomeCatalog.Database

/-- The name of the document of devices. -/
def devicesDocument : String := "org.openhab.core.thing.Thing.json"
/-- The name of the document of variables. -/
def variablesDocument : String := "org.openhab.core.items.Item.json"
/-- The name of the document of links. -/
def linksDocument : String := "org.openhab.core.thing.link.ItemChannelLink.json"
/-- The name of the document of notes. -/
def notesDocument : String := "org.openhab.core.items.Metadata.json"

/-- The documents of a database, in the order in which they are read. -/
def documents : List String :=
  [devicesDocument, variablesDocument, linksDocument, notesDocument]

/-- The records of a document with this label and text. -/
def recordsOf {α : Type} (convert : String → Members → Except Property.DefinitionFault α)
    (label text : String) : Except Failure (List α) :=
  match entriesOf label text with
  | .error e => .error e
  | .ok entries =>
    (entries.mapM fun e => convert e.1 e.2).mapError fun e => .fault (.definition e)

/-- The records of one category; none if its document is missing. -/
def loadCategory {α : Type} (convert : String → Members → Except Property.DefinitionFault α)
    (document : Path) : Task (Except Failure (List α)) :=
  ((Task.entryExists document).liftFault .system).andThen fun there =>
    if there then
      ((Task.readText Text.decodeMarkedUtf8 document).liftFault fun e =>
        Failure.fault (.unreadable document.text e)).andThen fun text =>
          return recordsOf convert document.text text
    else return .ok []

/-- Whether something stands at one of these paths. -/
def anyExists : List Path → Task (Except SystemFault Bool)
  | [] => return .ok false
  | p :: rest =>
    (Task.entryExists p).andThen fun there => if there then return .ok true else anyExists rest

/-- All records of the database in a folder. -/
def load (folder : Path) : Task (Except Failure RecordSet) :=
  ((Task.isDirectory folder).liftFault .system).andThen fun isFolder =>
    if !isFolder then return .error (.fault (.noFolder folder.text))
    else ((anyExists (documents.map folder.entry)).liftFault .system).andThen fun anyThere =>
      if !anyThere then return .error (.fault (.noFiles folder.text))
      else
        (loadCategory deviceRecord (folder.entry devicesDocument)).andThen fun devices =>
        (loadCategory variableRecord (folder.entry variablesDocument)).andThen fun vars =>
        (loadCategory linkRecord (folder.entry linksDocument)).andThen fun links =>
        (loadCategory noteRecord (folder.entry notesDocument)).andThen fun notes =>
          return .ok { devices, vars, links, notes }

end HomeCatalog.Database
