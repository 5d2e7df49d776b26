-- What connections ask of a database engine. Statements are run by the engine;
-- which tables it has been given is the business of the connection.
import GridQuery.Backend
import GridQuery.Grid.Table

namespace GridQuery

/-- An engine, by the type of its databases. -/
class TableEngine (δ : Type) where
  /-- A database without tables. -/
  start : δ
  /-- Creates the table of a reference's qualified name and stores its rows. The database that
  comes back is the one after the attempt. -/
  load : δ → TableRef → Table → Except String Unit × δ
  /-- The result of a statement, or the engine's complaint. -/
  run : δ → Statement → Except String ResultSet

end GridQuery
