import NamedConditions.Command.Completion
/-!
The scripts that make a shell ask the program for candidates. Each defines a function that runs the
program with the request in a variable, and registers it for the name of the program.
-/
namespace NamedConditions.Command

/-- The variable in which a shell asks for candidates or for its script. -/
def requestVariable : String := "_ENVNAME_COMPLETE"

namespace Shell

/-- The name of the function in a shell that asks for candidates. -/
def functionName : String := "_" ++ programName ++ "_completion"

/-- The lines of the script for a shell. -/
def scriptLines : Shell → List String
  | bash => [
    functionName ++ "() \x7b",
    "    local IFS=$'\\n'",
    "    local response",
    "",
    "    response=$(env COMP_WORDS=\"$\x7bCOMP_WORDS[*]\x7d\" COMP_CWORD=$COMP_CWORD " ++
      requestVariable ++ "=bash_complete $1)",
    "",
    "    for completion in $response; do",
    "        IFS=',' read type value <<< \"$completion\"",
    "",
    "        if [[ $type == 'dir' ]]; then",
    "            COMPREPLY=()",
    "            compopt -o dirnames",
    "        elif [[ $type == 'file' ]]; then",
    "            COMPREPLY=()",
    "            compopt -o default",
    "        elif [[ $type == 'plain' ]]; then",
    "            COMPREPLY+=($value)",
    "        fi",
    "    done",
    "",
    "    return 0",
    "\x7d",
    "",
    functionName ++ "_setup() \x7b",
    "    complete -o nosort -F " ++ functionName ++ " " ++ programName,
    "\x7d",
    "",
    functionName ++ "_setup;"]
  | zsh => [
    "#compdef " ++ programName,
    "",
    functionName ++ "() \x7b",
    "    local -a completions",
    "    local -a completions_with_descriptions",
    "    local -a response",
    "    (( ! $+commands[" ++ programName ++ "] )) && return 1",
    "",
    "    response=(\"$\x7b(@f)$(env COMP_WORDS=\"$\x7bwords[*]\x7d\" COMP_CWORD=$((CURRENT-1)) " ++
      requestVariable ++ "=zsh_complete " ++ programName ++ ")\x7d\")",
    "",
    "    for type key descr in $\x7bresponse\x7d; do",
    "        if [[ \"$type\" == \"plain\" ]]; then",
    "            if [[ \"$descr\" == \"_\" ]]; then",
    "                completions+=(\"$key\")",
    "            else",
    "                completions_with_descriptions+=(\"$key\":\"$descr\")",
    "            fi",
    "        elif [[ \"$type\" == \"dir\" ]]; then",
    "            _path_files -/",
    "        elif [[ \"$type\" == \"file\" ]]; then",
    "            _path_files -f",
    "        fi",
    "    done",
    "",
    "    if [ -n \"$completions_with_descriptions\" ]; then",
    "        _describe -V unsorted completions_with_descriptions -U",
    "    fi",
    "",
    "    if [ -n \"$completions\" ]; then",
    "        compadd -U -V unsorted -a completions",
    "    fi",
    "\x7d",
    "",
    "if [[ $zsh_eval_context[-1] == loadautofunc ]]; then",
    "    # autoload from fpath, call function directly",
    "    " ++ functionName ++ " \"$@\"",
    "else",
    "    # eval/source/. command, register function for later",
    "    compdef " ++ functionName ++ " " ++ programName,
    "fi"]
  | fish => [
    "function " ++ functionName ++ ";",
    "    set -l response (env " ++ requestVariable ++
      "=fish_complete COMP_WORDS=(commandline -cp) COMP_CWORD=(commandline -t) " ++ programName ++
      ");",
    "",
    "    for completion in $response;",
    "        set -l metadata (string split \",\" $completion);",
    "",
    "        if test $metadata[1] = \"dir\";",
    "            __fish_complete_directories $metadata[2];",
    "        else if test $metadata[1] = \"file\";",
    "            __fish_complete_path $metadata[2];",
    "        else if test $metadata[1] = \"plain\";",
    "            echo $metadata[2];",
    "        end;",
    "    end;",
    "end;",
    "",
    "complete --no-files --command " ++ programName ++ " --arguments \"(" ++ functionName ++
      ")\";"]

/-- The script for a shell. -/
def script (s : Shell) : String := String.join (s.scriptLines.map (· ++ "\n"))

end Shell

end NamedConditions.Command
