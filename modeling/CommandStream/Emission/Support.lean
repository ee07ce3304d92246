/-!
# Support code

The emitted files that do not depend on the interface: error checks after native calls, the transfer
buffer and the slot tables. Only their namespace varies.
-/

namespace CommandStream.Support

/-- The check for errors after a native call. -/
def errorCheck (space : String) : List String :=
  ["#pragma once",
   "",
   "#include <cstdio>",
   "",
   "#include <glad/glad.h>",
   "",
   "namespace " ++ space,
   "\x7b",
   "    inline void check_gl_error(const char* call, const char* file, int line)",
   "    \x7b",
   "        GLenum err;",
   "        while ((err = glGetError()) != GL_NO_ERROR)",
   "        \x7b",
   "            std::fprintf(stderr, \"%s:%d: %s failed with GL error 0x%04x\\n\", file, line, call, unsigned(err));",
   "        \x7d",
   "    \x7d",
   "\x7d",
   "",
   "#ifdef MULTIGL_NO_CHECK",
   "#define MGL_CHECK(call) do \x7b call; \x7d while (0)",
   "#else",
   "#define MGL_CHECK(call) do \x7b call; ::" ++ space ++ "::check_gl_error(#call, __FILE__, __LINE__); \x7d while (0)",
   "#endif"]

/-- The transfer buffer. -/
def transferBuffer (space : String) : List String :=
  ["#pragma once",
   "",
   "#include <algorithm>",
   "#include <cassert>",
   "#include <cstddef>",
   "#include <cstring>",
   "#include <type_traits>",
   "#include <vector>",
   "",
   "#include \"gl_function_enums.hpp\"",
   "",
   "namespace " ++ space,
   "\x7b",
   "    class raw_rw_buffer",
   "    \x7b",
   "    public:",
   "        inline raw_rw_buffer() : m_WriteIdx(0), m_ReadIdx(0) \x7b \x7d",
   "        inline ~raw_rw_buffer() \x7b \x7d",
   "",
   "    public:",
   "        inline void reset()",
   "        \x7b",
   "            m_Buffer.resize(0);",
   "            m_WriteIdx = 0;",
   "            m_ReadIdx = 0;",
   "        \x7d",
   "",
   "        inline size_t size() const",
   "        \x7b",
   "            return m_WriteIdx;",
   "        \x7d",
   "",
   "    public:",
   "        inline void write_command(CommandId cmd)",
   "        \x7b",
   "            write<command_id_t>(command_id_t(cmd));",
   "        \x7d",
   "",
   "        template<typename T>",
   "        inline void write(const T& val)",
   "        \x7b",
   "            static_assert(std::is_trivially_copyable<T>::value, \"values are copied as raw bytes\");",
   "",
   "            auto padding = get_padding(m_WriteIdx, alignof(T));",
   "            grow(m_WriteIdx + padding + sizeof(T));",
   "            write_padding(padding);",
   "            write_unchecked(val);",
   "        \x7d",
   "",
   "        inline size_t capacity() const",
   "        \x7b",
   "            return m_Buffer.capacity();",
   "        \x7d",
   "",
   "    private:",
   "        // capacity at least doubles",
   "        inline void grow(size_t needed)",
   "        \x7b",
   "            if (needed > m_Buffer.capacity())",
   "                m_Buffer.reserve(std::max(needed, 2 * m_Buffer.capacity()));",
   "        \x7d",
   "",
   "        static inline size_t get_padding(size_t idx, size_t align)",
   "        \x7b",
   "            return (align - idx % align) % align;",
   "        \x7d",
   "",
   "        inline void write_padding(size_t padding)",
   "        \x7b",
   "            m_Buffer.resize(m_WriteIdx + padding, 0);",
   "            m_WriteIdx += padding;",
   "        \x7d",
   "",
   "        template<typename T>",
   "        inline void write_unchecked(const T& val)",
   "        \x7b",
   "            m_Buffer.resize(m_WriteIdx + sizeof(T));",
   "            std::memcpy(&m_Buffer[m_WriteIdx], &val, sizeof(T));",
   "            m_WriteIdx += sizeof(T);",
   "        \x7d",
   "",
   "    public:",
   "        inline bool has_commands() const",
   "        \x7b",
   "            return m_ReadIdx < m_WriteIdx;",
   "        \x7d",
   "",
   "        inline CommandId read_command()",
   "        \x7b",
   "            return CommandId(read<command_id_t>());",
   "        \x7d",
   "",
   "        template<typename T>",
   "        inline T read()",
   "        \x7b",
   "            static_assert(std::is_trivially_copyable<T>::value, \"values are copied as raw bytes\");",
   "",
   "            m_ReadIdx += get_padding(m_ReadIdx, alignof(T));",
   "            assert(m_ReadIdx + sizeof(T) <= m_WriteIdx && \"read past the written data\");",
   "",
   "            T val;",
   "            std::memcpy(&val, &m_Buffer[m_ReadIdx], sizeof(T));",
   "            m_ReadIdx += sizeof(T);",
   "            return val;",
   "        \x7d",
   "",
   "    private:",
   "        std::vector<unsigned char> m_Buffer;",
   "        size_t m_WriteIdx;",
   "        size_t m_ReadIdx;",
   "    \x7d;",
   "\x7d"]

/-- Handles and slot tables. -/
def slotTables (space : String) : List String :=
  ["#pragma once",
   "",
   "#include <cassert>",
   "#include <cstdint>",
   "#include <mutex>",
   "#include <type_traits>",
   "#include <utility>",
   "#include <vector>",
   "",
   "namespace " ++ space,
   "\x7b",
   "    // generation in the high 32 bits, slot index in the low 32 bits",
   "    template<typename Tag>",
   "    class resource_handle",
   "    \x7b",
   "    public:",
   "        inline resource_handle() : m_Value(0) \x7b \x7d",
   "        inline resource_handle(uint32_t generation, uint32_t index)",
   "            : m_Value((uint64_t(generation) << 32) | uint64_t(index)) \x7b \x7d",
   "",
   "        inline uint32_t generation() const \x7b return uint32_t(m_Value >> 32); \x7d",
   "        inline uint32_t index() const \x7b return uint32_t(m_Value & 0xffffffffu); \x7d",
   "        inline uint64_t value() const \x7b return m_Value; \x7d",
   "",
   "        inline bool operator==(const resource_handle& other) const \x7b return m_Value == other.m_Value; \x7d",
   "        inline bool operator!=(const resource_handle& other) const \x7b return m_Value != other.m_Value; \x7d",
   "",
   "    private:",
   "        uint64_t m_Value;",
   "    \x7d;",
   "",
   "    template<typename T, typename Tag>",
   "    class slot_map",
   "    \x7b",
   "        static_assert(std::is_trivially_copyable<T>::value, \"slots hold native object names\");",
   "",
   "    public:",
   "        typedef resource_handle<Tag> handle_type;",
   "",
   "        inline slot_map() : m_Generation(0) \x7b \x7d",
   "        slot_map(const slot_map&) = delete;",
   "        slot_map& operator=(const slot_map&) = delete;",
   "",
   "    public:",
   "        template<typename... Args>",
   "        inline handle_type create(Args&&... args)",
   "        \x7b",
   "            std::lock_guard<std::mutex> lock(m_Mutex);",
   "",
   "            uint32_t index;",
   "            if (!m_FreeList.empty())",
   "            \x7b",
   "                index = m_FreeList.back();",
   "                m_FreeList.pop_back();",
   "            \x7d",
   "            else",
   "            \x7b",
   "                index = uint32_t(m_Slots.size());",
   "                m_Slots.emplace_back();",
   "                ++m_Generation;",
   "            \x7d",
   "",
   "            auto& slot = m_Slots[index];",
   "            slot.value = T(std::forward<Args>(args)...);",
   "            slot.occupied = true;",
   "            ++slot.generation;",
   "",
   "            return handle_type(slot.generation, index);",
   "        \x7d",
   "",
   "        inline void destroy(handle_type handle)",
   "        \x7b",
   "            std::lock_guard<std::mutex> lock(m_Mutex);",
   "            assert(is_valid_unlocked(handle) && \"destroying a stale handle\");",
   "            if (!is_valid_unlocked(handle))",
   "                return;",
   "",
   "            auto& slot = m_Slots[handle.index()];",
   "            slot.value = T();",
   "            slot.occupied = false;",
   "            m_FreeList.push_back(handle.index());",
   "            ++m_Generation;",
   "        \x7d",
   "",
   "        // values are copied out and in; slots move when the table grows",
   "        inline T get(handle_type handle) const",
   "        \x7b",
   "            std::lock_guard<std::mutex> lock(m_Mutex);",
   "            assert(is_valid_unlocked(handle) && \"stale handle\");",
   "            if (!is_valid_unlocked(handle))",
   "                return T();",
   "",
   "            return m_Slots[handle.index()].value;",
   "        \x7d",
   "",
   "        inline void set(handle_type handle, const T& value)",
   "        \x7b",
   "            std::lock_guard<std::mutex> lock(m_Mutex);",
   "            assert(is_valid_unlocked(handle) && \"stale handle\");",
   "            if (!is_valid_unlocked(handle))",
   "                return;",
   "",
   "            m_Slots[handle.index()].value = value;",
   "        \x7d",
   "",
   "        inline bool is_valid(handle_type handle) const",
   "        \x7b",
   "            std::lock_guard<std::mutex> lock(m_Mutex);",
   "            return is_valid_unlocked(handle);",
   "        \x7d",
   "",
   "        inline uint32_t generation() const",
   "        \x7b",
   "            std::lock_guard<std::mutex> lock(m_Mutex);",
   "            return m_Generation;",
   "        \x7d",
   "",
   "    private:",
   "        struct slot",
   "        \x7b",
   "            slot() : value(), generation(0), occupied(false) \x7b \x7d",
   "",
   "            T value;",
   "            uint32_t generation;",
   "            bool occupied;",
   "        \x7d;",
   "",
   "        inline bool is_valid_unlocked(handle_type handle) const",
   "        \x7b",
   "            return handle.index() < m_Slots.size() &&",
   "                   m_Slots[handle.index()].occupied &&",
   "                   m_Slots[handle.index()].generation == handle.generation();",
   "        \x7d",
   "",
   "    private:",
   "        mutable std::mutex m_Mutex;",
   "        std::vector<slot> m_Slots;",
   "        std::vector<uint32_t> m_FreeList;",
   "        uint32_t m_Generation;",
   "    \x7d;",
   "\x7d"]

end CommandStream.Support
