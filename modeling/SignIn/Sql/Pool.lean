import SignIn.Sql.Connection
import SignIn.Sql.Target

/-!
# Pools

A new pool is used once before it is handed out, so that a server that refuses is
noticed at the start.
-/

namespace SignIn.Sql.Pool

/-- Open a pool on the server at an address, and try it. -/
def open? (url : String) : Step Unit := do
  let _ ← .ofExcept ((Target.ofText url).mapError fun problem =>
    StorageError.configuration problem.message)
  let _ ← send .ambient ⟨.probe, []⟩
  return ()

end SignIn.Sql.Pool
