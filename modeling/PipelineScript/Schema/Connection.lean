/-
# Database connections

The parameters of an external SQL database, and the URL that the generated
script passes to its engine.
-/
import PipelineScript.Json.Decode
import PipelineScript.Text.Blank

namespace PipelineScript

structure Connection where
  username : String := ""
  password : String := ""
  host : String := ""
  port : String := ""
  database : String := ""
deriving Repr, DecidableEq

namespace Connection

open Json

/-- A text that is empty unless it is given. -/
def part (position : Nat) (name : String) (decode : Decoder String) : Member String :=
  { position, name, decode, absent := some "", omitted := some "" }

/-- Reads a connection; whatever is left out is empty, and the port may be
a number. -/
def decode : Decoder Connection :=
  .record "struct ConnectionParams" 5 fun s w =>
    mk <$> (part 0 "username" .text).read s w <*> (part 1 "password" .text).read s w <*>
      (part 2 "host" .text).read s w <*> (part 3 "port" .key).read s w <*>
      (part 4 "databaseName" .text).read s w

def encode (c : Connection) : Json :=
  .obj [("databaseName", .str c.database), ("host", .str c.host), ("password", .str c.password),
    ("port", .str c.port), ("username", .str c.username)]

/-- The URL of the database. -/
def url (c : Connection) : String :=
  "mysql+pymysql://" ++ c.username ++ ":" ++ c.password ++ "@" ++ c.host ++ ":" ++ c.port ++
    "/" ++ c.database

/-- Is there a host and a database to connect to? -/
def isComplete (c : Connection) : Bool :=
  !Text.isBlankText c.host && !Text.isBlankText c.database

end Connection

end PipelineScript
