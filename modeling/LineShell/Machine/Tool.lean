import LineShell.Bytes

/-!
# Tools

The programs that are installed on the machine, by the names under which they are found.
-/

namespace LineShell.Machine

/-- An installed program. -/
inductive Tool where
  | succeed | fail | echo | pwd | touch | mkdir | rmdir | rm | ln | ls | cat | cp | mv
  | test | bracket | sleep | printf | printenv | env | shell
  deriving DecidableEq, Repr

/-- The names of the installed programs. -/
def Tool.names : List (String × Tool) := [
  ("true", .succeed), ("false", .fail), ("echo", .echo), ("pwd", .pwd), ("touch", .touch),
  ("mkdir", .mkdir), ("rmdir", .rmdir), ("rm", .rm), ("ln", .ln), ("ls", .ls), ("cat", .cat),
  ("cp", .cp), ("mv", .mv), ("test", .test), ("[", .bracket), ("sleep", .sleep),
  ("printf", .printf), ("printenv", .printenv), ("env", .env), ("sh", .shell), ("dash", .shell)]

end LineShell.Machine
