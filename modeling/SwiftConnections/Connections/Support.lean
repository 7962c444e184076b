import SwiftConnections.Swift.Code

namespace SwiftConnections

namespace Support

/-- The adapter from the native library's callbacks to a completion. -/
def bridgeCallback : Text :=
  Text.join "\n" [
    "#if !REMOTEONLY",
    "private final class LndCallback<T: SwiftProtobuf.Message>: NSObject, LndmobileCallbackProtocol, LndmobileRecvStreamProtocol \x7b",
    "    private let completion: (Result<T, LndApiError>) -> Void",
    "",
    "    init(_ completion: @escaping (Result<T, LndApiError>) -> Void) \x7b",
    "        self.completion = completion",
    "    \x7d",
    "",
    "    func onError(_ error: Error) \x7b",
    "        Logger.error(error)",
    "        completion(.failure(LndApiError.localizedError(error.localizedDescription)))",
    "    \x7d",
    "",
    "    func onResponse(_ data: Data) \x7b",
    "        if let result = try? T(serializedData: data) \x7b",
    "            completion(.success(result))",
    "        \x7d else \x7b",
    "            onError(LndApiError.unknownError)",
    "        \x7d",
    "    \x7d",
    "\x7d",
    "#endif"]

/-- The test whether a stream goes on, which a response without a value ends. -/
def streamResultHandler : Text :=
  Text.join "\n" [
    "private func handleStreamResult<T>(_ result: ResultOrRPCError<T?>, completion: @escaping ApiCompletion<T>) throws -> Bool \x7b",
    "    switch result \x7b",
    "    case .result(let value):",
    "        guard let value = value else \x7b return false \x7d",
    "        completion(.success(value))",
    "        return true",
    "    case .error(let error):",
    "        throw error",
    "    \x7d",
    "\x7d"]

/-- The adapter from the outcome of a call with one response to a completion. -/
def unaryHandler : Text :=
  Text.join "\n" [
    "private func createHandler<T>(_ completion: @escaping ApiCompletion<T>) -> (T?, CallResult) -> Void \x7b",
    "    return \x7b (response: T?, callResult: CallResult) in",
    "        if let response = response \x7b",
    "            completion(.success(response))",
    "        \x7d else \x7b",
    "            let error = LndApiError(callResult: callResult)",
    "            Logger.error(error)",
    "            completion(.failure(error))",
    "        \x7d",
    "    \x7d",
    "\x7d"]

/-- A result made of a value that may be missing. -/
def resultExtension : Text :=
  Text.join "\n" [
    "private extension Result \x7b",
    "    init(value: Success?, error: Failure) \x7b",
    "        if let value = value \x7b",
    "            self = .success(value)",
    "        \x7d else \x7b",
    "            self = .failure(error)",
    "        \x7d",
    "    \x7d",
    "\x7d"]

/-- The private declarations that the connections of a file rely on. Their texts have an indentation of their own, four blanks
for each level, and the writer puts its own before it. -/
def code : List Step :=
  line "// MARK: - Helper Methods" ++
    separated ([bridgeCallback, streamResultHandler, unaryHandler, resultExtension].map snippet)

end Support

end SwiftConnections
