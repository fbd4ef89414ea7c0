import ChatHost.Store.Memory
import ChatHost.Store.Tables

/-!
# Backings

A store of either kind, chosen when the host is set up: plain memory, or the
tables of a database.

## Main definitions

* `Backing`: A store of either kind.
-/

namespace ChatHost

/-- A store of either kind. -/
inductive Backing
  | memory (store : MemoryStore)
  | tables (store : TableStore)

namespace Backing

/-- Asks whichever store there is. -/
def query {α : Type} (b : Backing) (ofMemory : MemoryStore → α) (ofTables : TableStore → α) : α :=
  match b with
  | memory store => ofMemory store
  | tables store => ofTables store

/-- Changes whichever store there is. -/
def change {α : Type} (b : Backing) (ofMemory : MemoryStore → α × MemoryStore)
    (ofTables : TableStore → α × TableStore) : α × Backing :=
  match b with
  | memory store => ((ofMemory store).1, memory (ofMemory store).2)
  | tables store => ((ofTables store).1, tables (ofTables store).2)

/-- Writes a row into the tables, past all operations. Plain memory has no
    tables, and then there is no result. -/
def addRow? (b : Backing) (add : TableStore → Except SchemaViolation TableStore) :
    Option (Except SchemaViolation Backing) :=
  match b with
  | memory _ => none
  | tables store => some ((add store).map tables)

end Backing

instance : Gateway Backing where
  selectServers b id := b.query (Gateway.selectServers · id) (Gateway.selectServers · id)
  selectUsers b filter := b.query (Gateway.selectUsers · filter) (Gateway.selectUsers · filter)
  selectChannels b filter :=
    b.query (Gateway.selectChannels · filter) (Gateway.selectChannels · filter)
  selectMessages b filter :=
    b.query (Gateway.selectMessages · filter) (Gateway.selectMessages · filter)
  insertServer b id := b.change (Gateway.insertServer · id) (Gateway.insertServer · id)
  insertUser b server ip username :=
    b.change (Gateway.insertUser · server ip username) (Gateway.insertUser · server ip username)
  insertChannel b name server :=
    b.change (Gateway.insertChannel · name server) (Gateway.insertChannel · name server)
  insertMessage b text channel sender :=
    b.change (Gateway.insertMessage · text channel sender)
      (Gateway.insertMessage · text channel sender)
  updateRole b server username role :=
    b.change (Gateway.updateRole · server username role)
      (Gateway.updateRole · server username role)

end ChatHost
