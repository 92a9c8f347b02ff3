import StackPanel.Proofs.Text.Trim
import StackPanel.Service.Connection

/-! Addresses of requests: what joining a path to a resolved base address gives. -/

namespace StackPanel.Connection

/-- Joining tells two paths apart exactly by what follows their leading slashes. -/
theorem joinUrl_inj {base path other : String} :
    joinUrl base path = joinUrl base other ↔
      path.toList.dropWhile (· = '/') = other.toList.dropWhile (· = '/') := by
  -- The base and the slash after it are common to both sides.
  simp [joinUrl, String.ofList_inj]

/-- A resolved base address has no slash left at its end. -/
theorem dropEndWhile_resolveBaseUrl (typed origin : String) :
    Text.dropEndWhile (· = '/') (resolveBaseUrl typed origin).toList =
      (resolveBaseUrl typed origin).toList := by
  simp [resolveBaseUrl]

/-- A path with a single leading slash simply follows a resolved base address. -/
theorem joinUrl_resolved (typed origin : String) {path : String} (c : Char) (rest : List Char)
    (split : path.toList = '/' :: c :: rest) (plain : c ≠ '/') :
    joinUrl (resolveBaseUrl typed origin) path = resolveBaseUrl typed origin ++ path := by
  -- Nothing is dropped from the base, and only the one slash from the path.
  apply String.toList_inj.mp
  simp [joinUrl, dropEndWhile_resolveBaseUrl, split, plain]

end StackPanel.Connection
