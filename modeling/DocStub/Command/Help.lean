/-
  The help text of the program.
-/
import DocStub.Text.Basic

namespace DocStub

namespace Command

/-- The lines of the help text. -/
def helpLines : List String :=
  ["Generate Lua annotation stubs from LDoc API documentation",
    "",
    "Usage: luastub [OPTIONS] [SOURCE]",
    "",
    "Arguments:",
    "  [SOURCE]  Documentation root: an http(s) URL or a directory of saved pages [default: https://lotj.github.io/lua-docs/]",
    "",
    "Options:",
    "  -o, --output <OUTPUT>          Output directory for the generated stubs [default: LotJLuaAPI]",
    "      --user-agent <USER_AGENT>  User-Agent header sent with HTTP requests [default: \"Mozilla/5.0 (Windows NT 10.0; Win64; x64) AppleWebKit/537.36 (KHTML, like Gecko) Chrome/108.0.0.0 Safari/537.36\"]",
    "      --timeout <TIMEOUT>        HTTP request timeout in seconds [default: 30]",
    "  -j, --jobs <JOBS>              Number of classes processed concurrently (0 = one per CPU) [default: 0]",
    "      --stdin                    Read a single class page from stdin and print its stub to stdout",
    "      --class <CLASS>            Class name for --stdin",
    "      --summary <SUMMARY>        Class summary for --stdin [default: \"\"]",
    "  -v, --verbose                  Debug logging",
    "  -q, --quiet                    Only log errors",
    "      --no-color                 Disable colored log output",
    "  -h, --help                     Print help"]

/-- The help text. -/
def help : Text := helpLines.flatMap fun l => l.toList ++ ['\n']

end Command

end DocStub
