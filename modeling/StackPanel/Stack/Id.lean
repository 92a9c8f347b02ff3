import StackPanel.Create.InputError
import StackPanel.Text.Blank

/-! Stack ids that may stand in a request path. -/

namespace StackPanel.StackId

/-- Characters that keep their meaning inside one segment of a path. -/
def isUnreserved (c : Char) : Bool :=
  c.isAlphanum || c = '-' || c = '_' || c = '.' || c = '~'

/-- An id without the white space around it, refused if it could change the path of a request. -/
def validate (raw : String) : Except InputError String :=
  let id := Text.trimChars raw.toList
  if id.isEmpty then .error .stackIdMissing
  else if !id.all isUnreserved || id = ['.'] || id = ['.', '.'] then
    .error (.stackIdInvalid (String.ofList id))
  else .ok (String.ofList id)

end StackPanel.StackId
