/-
How a context compiles: where the toolchain and its headers are.

The toolchain root is read from a variable of the environment, whose name is an
option.  Header directories are searched in a fixed order: those of the kernels,
those of the system, and then that of the toolchain.
-/
import KernelJit.Environment
import KernelJit.Event

namespace KernelJit

/-- The options of a context. -/
structure Options where
  /-- The variable that names the toolchain root. -/
  rootVariable : String := "CUDA_PATH"
  /-- The header directories of the kernels. -/
  kernelDirs : List String :=
    ["./src/main/cpp/kernels/spoof_native_cuda/", "./src/main/cpp/kernels/"]
  /-- The header directories of the system. -/
  systemDirs : List String :=
    ["/usr/local/cuda/include", "/usr/local/cuda/include/cuda/std/detail/libcxx/include/"]
  /-- The kernel variant to build. -/
  variant : UInt32 := 0
  /-- The budget of the cache, in megabytes. -/
  cacheMegabytes : UInt64 := 100
deriving DecidableEq

namespace Options

/-- The toolchain root.  A variable that is set to the empty text counts as unset. -/
def root (options : Options) (env : Environment) : Except Failure String × List Event :=
  match env options.rootVariable with
  | some root =>
    if root = "" then
      (.error (.missingToolchainRoot options.rootVariable), [.rootUnset options.rootVariable])
    else (.ok root, [])
  | none =>
    (.error (.missingToolchainRoot options.rootVariable), [.rootUnset options.rootVariable])

/-- A path without the slashes at its end. -/
def trimSlashes (path : String) : String :=
  String.ofList (path.toList.reverse.dropWhile (· == '/')).reverse

/-- The include flags for a toolchain root. -/
def includeFlags (options : Options) (root : String) : List String :=
  (options.kernelDirs ++ options.systemDirs).map ("-I" ++ ·) ++
    ["-I" ++ trimSlashes root ++ "/include"]

end Options

end KernelJit
