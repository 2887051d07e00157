import SqlAccess.Mysql.Cell
import SqlAccess.Reply

/-!
# Servers

What a pool is connected to.  A server that can be reached replies to a statement with rows, with an
acknowledgement or with an error; an error may also come in the middle of rows.  A server that
cannot be reached has nothing to say, and its pool reports what the network said instead.
-/

namespace SqlAccess

/-- What a server replies to a statement. -/
inductive ServerReply where
  /-- Rows of cells, and behind them perhaps an error. -/
  | rows (columns : List ColumnInfo) (rows : List (List (Option (List UInt8))))
      (failure : Option String)
  | done (affectedRows insertId : UInt64) (info : String)
  | refused (code : Nat) (text : String)

/-- What stands behind an address. -/
inductive Server where
  /-- The network knows no way there. -/
  | unreachable
  | reachable (reply : ServerReply)

/-- What is reported when there is no way to a server. -/
def unreachableText : String :=
  "Input/output error: Input/output error: Network is unreachable (os error 101)"

/-- What is reported of a pool that has been disconnected. -/
def disconnectedText : String :=
  "Driver error: \x60Pool was disconnected.'"

/-- What is reported of an error that a server replies. -/
def serverErrorText (code : Nat) (text : String) : String :=
  s!"Server error: \x60ERROR 42000 ({code}): {text}'"

/-- The code of an error in the middle of rows. -/
def interruptedCode : Nat := 1317

namespace ServerReply

/-- The error of interrupted rows. -/
def interruption (text : String) : Error :=
  .driver (serverErrorText interruptedCode text)

/-- The acknowledgement of a statement without rows. -/
def acknowledged (affectedRows insertId : UInt64) (info : String) : Ack :=
  ⟨affectedRows, insertId, none, if info.isEmpty then none else some info⟩

/-- The rows of cells, decoded. -/
def records (columns : List ColumnInfo) (rows : List (List (Option (List UInt8)))) : List Record :=
  rows.map fun cells => .ofColumns (decodeRow columns cells)

/-- What a statement that is executed answers. -/
def toReply : ServerReply → Except Error Reply
  | .rows columns cells none => .ok (.rows (records columns cells))
  | .rows _ _ (some text) => .error (interruption text)
  | .done affectedRows insertId info => .ok (.ack (acknowledged affectedRows insertId info))
  | .refused code text => .error (.driver (serverErrorText code text))

/-- What a statement that is opened hands out. -/
def items : ServerReply → List (Except Error Record)
  | .rows columns cells failure =>
    (records columns cells).map .ok ++ (failure.map fun text => .error (interruption text)).toList
  | .done _ _ _ => []
  | .refused code text => [.error (.driver (serverErrorText code text))]

end ServerReply

end SqlAccess
